import Mathlib.Algebra.GroupWithZero.Nat
import Rover.Proofs.Interleaving
import Rover.Proofs.Mistakes

namespace Rover

namespace Settings

/-- Executing the lines of a source yields `outputs` and leads to `last`, where the item after the
first `n` items cannot be read. -/
inductive Fails (s : Settings) (cause : Text) (last : State) :
    State → List Item → List Text → Nat → Prop where
  | here {item : Item} (bad : s.lineOf item = .error (some cause)) (rest : List Item) :
      Fails s cause last last (item :: rest) [] 0
  | later {st : State} {item : Item} {line : Text} {output : Option Text} {rest : List Item}
      {outputs : List Text} {n : Nat} (holds : s.lineOf item = .ok line)
      (ok : (s.execute st line).result = .ok output)
      (next : Fails s cause last (s.execute st line).state rest outputs n) :
      Fails s cause last st (item :: rest) (output.toList ++ outputs) (n + 1)

variable {s : Settings} {coloured : Bool} {quota : Nat} {cause : Text} {last st : State}
  {item : Item} {before items rest : List Item} {outputs : List Text} {n : Nat}

theorem fails_of_passes (passed : s.Passes st before) (bad : s.lineOf item = .error (some cause))
    (rest : List Item) :
    ∃ outputs, (s.lineByLine st (s.linesOf before)).result = .ok outputs ∧
      s.Fails cause (s.lineByLine st (s.linesOf before)).state st (before ++ item :: rest) outputs
        before.length := by
  induction before generalizing st with
  | nil => exact ⟨[], rfl, .here bad rest⟩
  | cons first before ih =>
      obtain ⟨line, output, holds, ok, passed⟩ := passed
      obtain ⟨outputs, given, fails⟩ := ih passed
      have turned := Upshot.andThen_ok (Turn.upshot_of_ok ok)
        fun st => s.lineByLine st (s.linesOf before)
      rw [s.linesOf_cons_ok holds, lineByLine, turned]
      refine ⟨output.toList ++ outputs, ?_, .later holds ok fails⟩
      exact congrArg (Except.map (output.toList ++ ·)) given

theorem Fails.length_le (fails : s.Fails cause last st items outputs n) : outputs.length ≤ n := by
  induction fails with
  | here bad rest => exact Nat.le_refl 0
  | @later st item line output rest outputs n holds ok next ih =>
      cases output with
      | none => exact Nat.le_succ_of_le ih
      | some output => exact Nat.succ_le_succ ih

theorem Fails.lt_length (fails : s.Fails cause last st items outputs n) : n < items.length := by
  induction fails with
  | here bad rest => exact Nat.succ_pos _
  | later holds ok next ih => exact Nat.succ_lt_succ ih

theorem Fails.label (fails : s.Fails cause last st items outputs n) :
    last.lineNumber = st.lineNumber + n ∧ last.source = st.source := by
  induction fails with
  | here bad rest => exact ⟨rfl, rfl⟩
  | later holds ok next ih =>
      obtain ⟨number, source⟩ := ih
      rw [execute_lineNumber] at number
      rw [execute_source] at source
      exact ⟨by omega, source⟩

theorem Fails.advanceBy_paused (fails : s.Fails cause last st items outputs n) (coloured : Bool)
    (few : quota ≤ outputs.length) :
    (s.advanceBy coloured quota st items).ending = .paused ∧
      (s.advanceBy coloured quota st items).outputs = outputs.take quota ∧
      ∃ left, (s.advanceBy coloured quota st items).taken + left = n ∧
        s.Fails cause last (s.advanceBy coloured quota st items).state
          (s.advanceBy coloured quota st items).rest (outputs.drop quota) left := by
  induction fails generalizing quota with
  | here bad rest =>
      obtain rfl : quota = 0 := Nat.le_zero.1 few
      exact ⟨rfl, rfl, 0, rfl, .here bad rest⟩
  | @later st item line output rest outputs n holds ok next ih =>
      cases quota with
      | zero => exact ⟨rfl, rfl, n + 1, Nat.zero_add _, .later holds ok next⟩
      | succ quota =>
          simp only [advanceBy, holds, ok]
          cases output with
          | none =>
              obtain ⟨ending, given, left, taken, fails⟩ := ih few
              refine ⟨ending, ?_, left, ?_, fails⟩
              · rw [outputs_preceded_silent, given]
                rfl
              · rw [← taken]
                exact Nat.add_right_comm _ _ _
          | some output =>
              obtain ⟨ending, given, left, taken, fails⟩ := ih (Nat.le_of_succ_le_succ few)
              refine ⟨ending, ?_, left, ?_, fails⟩
              · rw [outputs_preceded_output, given]
                rfl
              · rw [← taken]
                exact Nat.add_right_comm _ _ _

theorem Fails.advanceBy_stopped (fails : s.Fails cause last st items outputs n) (coloured : Bool)
    (more : outputs.length < quota) :
    (s.advanceBy coloured quota st items).state = last ∧
      (s.advanceBy coloured quota st items).outputs = outputs ∧
      (s.advanceBy coloured quota st items).taken = n + 1 ∧
      (s.advanceBy coloured quota st items).ending =
        .stopped (.unreadable (unreadable coloured last cause)) := by
  induction fails generalizing quota with
  | here bad rest =>
      obtain ⟨quota, rfl⟩ := Nat.exists_eq_add_one_of_ne_zero (Nat.ne_of_gt more)
      rw [advanceBy, bad]
      exact ⟨rfl, rfl, rfl, rfl⟩
  | @later st item line output rest outputs n holds ok next ih =>
      obtain ⟨quota, rfl⟩ := Nat.exists_eq_add_one_of_ne_zero (by omega : quota ≠ 0)
      simp only [advanceBy, holds, ok]
      cases output with
      | none =>
          obtain ⟨state, given, taken, ending⟩ := ih more
          refine ⟨state, ?_, congrArg (· + 1) taken, ending⟩
          rw [outputs_preceded_silent, given]
          rfl
      | some output =>
          obtain ⟨state, given, taken, ending⟩ := ih (Nat.lt_of_succ_lt_succ more)
          refine ⟨state, ?_, congrArg (· + 1) taken, ending⟩
          rw [outputs_preceded_output, given]
          rfl

end Settings

namespace Feed

/-- A source that was not begun, or what is left of one, gives `outputs` and leads to `last` in
`taken` more items, where it cannot be read or could not be opened. -/
inductive Stops (s : Settings) (coloured : Bool) (last : State) :
    State → List Text → Nat → Ending → Feed → Prop where
  | waiting {cause : Text} {st : State} {stream : Stream} {source : Option Text}
      {outputs : List Text} {n : Nat} (opens : (Feed.waiting stream).opens? = some source)
      (fails : s.Fails cause last (s.opening st source) ((Feed.waiting stream).items s) outputs n) :
      Stops s coloured last st outputs (n + 1)
        (.stopped (.unreadable (Settings.unreadable coloured last cause))) (.waiting stream)
  | running {cause : Text} {st : State} {rest : List Item} {outputs : List Text} {n : Nat}
      (fails : s.Fails cause last st rest outputs n) :
      Stops s coloured last st outputs (n + 1)
        (.stopped (.unreadable (Settings.unreadable coloured last cause))) (.running rest)
  | unopened (name : Text) (e : FileError) :
      Stops s coloured last last [] 0 (.stopped (unopened coloured name e))
        (.waiting (.file name (.error e)))

variable {s : Settings} {coloured : Bool} {quota taken : Nat} {last st : State} {feed : Feed}
  {outputs : List Text} {ending : Ending}

theorem Stops.resume_paused (stops : feed.Stops s coloured last st outputs taken ending)
    (few : quota ≤ outputs.length) :
    (feed.resume s coloured quota st).1.outputs = outputs.take quota ∧
      ∃ left, (feed.resume s coloured quota st).1.taken + left = taken ∧
        (feed.resume s coloured quota st).2.Stops s coloured last
          (feed.resume s coloured quota st).1.state (outputs.drop quota) left ending := by
  by_cases asked : quota = 0
  · subst asked
    exact ⟨rfl, taken, Nat.zero_add taken, stops⟩
  · rw [resume_of_ne_zero s coloured st feed asked]
    cases stops with
    | waiting opens fails =>
        obtain ⟨paused, given, left, rfl, later⟩ := fails.advanceBy_paused coloured few
        rw [run_of_opens? s coloured quota st opens]
        refine ⟨(begin_outputs _ _).trans given, left + 1, rfl, ?_⟩
        simp only [after, begin, paused]
        exact .running later
    | running fails =>
        obtain ⟨paused, given, left, rfl, later⟩ := fails.advanceBy_paused coloured few
        refine ⟨given, left + 1, rfl, ?_⟩
        simp only [after, run, paused]
        exact .running later
    | unopened name e => exact absurd (Nat.le_zero.1 few) asked

theorem Stops.resume_stopped (stops : feed.Stops s coloured last st outputs taken ending)
    (more : outputs.length < quota) :
    ∃ x, feed.resume s coloured quota st = (x, .spent) ∧ x.state = last ∧ x.outputs = outputs ∧
      x.taken = taken ∧ x.ending = ending := by
  rw [resume_of_ne_zero s coloured st feed (by omega)]
  cases stops with
  | waiting opens fails =>
      obtain ⟨state, given, taken, ending⟩ := fails.advanceBy_stopped coloured more
      rw [run_of_opens? s coloured quota st opens]
      refine ⟨_, Prod.ext rfl ?_, state, (begin_outputs _ _).trans given, taken, ending⟩
      simp only [after, begin, ending]
  | running fails =>
      obtain ⟨state, given, taken, ending⟩ := fails.advanceBy_stopped coloured more
      refine ⟨_, Prod.ext rfl ?_, state, given, taken, ending⟩
      simp only [after, run, ending]
  | unopened name e => exact ⟨_, rfl, rfl, rfl, rfl, rfl⟩

theorem Stops.process {stream : Stream}
    (stops : (Feed.waiting stream).Stops s coloured last st outputs taken ending) :
    (s.process coloured st stream).state = last ∧
      (s.process coloured st stream).taken = taken ∧
      (s.process coloured st stream).ending = ending := by
  have enough : outputs.length < s.enough stream := by
    cases stops with
    | waiting opens fails =>
        have le := fails.length_le
        have lt := fails.lt_length
        rw [s.enough_of_opens? opens]
        omega
    | unopened name e => exact Nat.zero_lt_one
  obtain ⟨x, resumed, state, -, count, ends⟩ := stops.resume_stopped enough
  rw [resume_of_ne_zero s coloured st _ (Nat.ne_zero_of_lt enough)] at resumed
  obtain rfl := congrArg Prod.fst resumed
  exact ⟨state, count, ends⟩

end Feed

namespace Fleet

def joined (f : Fleet) (i : Nat) (st : State) (feed : Feed) (taken : Nat) : Fleet :=
  { f.setState i st with runs := f.runs ++ [⟨i, feed, taken⟩] }

def failure (f : Fleet) (line : Option Int) (source : Option Text) (cause : Text) : Ending :=
  .stopped (.unreadable ⟨some ⟨line, none, source⟩, .unreadable cause, f.coloured⟩)

/-- However a source is run, bit by bit until it ends or all at once, it gives the outputs, leads to
`last` after `taken` items, and ends so. -/
structure RunsTo (f : Fleet) (i : Nat) (stream : Stream) (outputs : List Text) (last : State)
    (taken : Nat) (ending : Ending) : Prop where
  lazily : ∀ (sooner : List Nat) (quota : Nat), sooner.sum ≤ outputs.length →
    outputs.length < sooner.sum + quota →
    (f.serve (.send i (.start stream))).1.outputsOf f.runs.length
        (sooner.map (.next f.runs.length)) = outputs.take sooner.sum ∧
      ∃ x, ((f.serve (.send i (.start stream))).1.serveAll
          (sooner.map (.next f.runs.length))).serve (.next f.runs.length quota) =
            (f.joined i last .spent taken, ⟨.stretch x taken, x.log⟩) ∧
        x.outputs = outputs.drop sooner.sum ∧ x.ending = ending
  finished : ∀ quota, quota ≠ 0 →
    (f.joined i last .spent taken).serve (.next f.runs.length quota) =
      (f.joined i last .spent taken, ⟨.stretch ⟨last, [], [], 0, .finished⟩ taken, []⟩)
  eagerly : ∃ x, f.serve (.send i (.process stream)) =
      (f.setState i last, ⟨.stretch x taken, x.log⟩) ∧ x.ending = ending

variable {f : Fleet} {i : Nat} {v : Vehicle}

theorem setState_self (hv : f.vehicles[i]? = some v) : f.setState i v.state = f := by
  have same : (f.setState i v.state).vehicles = f.vehicles := by
    apply List.ext_getElem?
    intro j
    rw [setState_vehicles]
    split
    · subst i
      rw [hv]
      rfl
    · rfl
  exact congrArg (fun vehicles => { f with vehicles }) same

theorem setState_setState (f : Fleet) (i : Nat) (first second : State) :
    (f.setState i first).setState i second = f.setState i second := by
  have same : ((f.setState i first).setState i second).vehicles =
      (f.setState i second).vehicles := by
    apply List.ext_getElem?
    intro j
    simp only [setState_vehicles]
    split
    · rw [Option.map_map]
      rfl
    · rfl
  exact congrArg (fun vehicles => { f with vehicles }) same

theorem serve_start_joined (hv : f.vehicles[i]? = some v) (stream : Stream) :
    (f.serve (.send i (.start stream))).1 = f.joined i v.state (.waiting stream) 0 := by
  rw [serve_start f hv, joined, setState_self hv]

theorem joined_set (f : Fleet) (i : Nat) (st st' : State) (feed feed' : Feed)
    (taken taken' : Nat) :
    ((f.joined i st feed taken).setState i st').setRun f.runs.length ⟨i, feed', taken'⟩ =
      f.joined i st' feed' taken' := by
  have runs : (f.runs ++ [Run.mk i feed taken]).set f.runs.length ⟨i, feed', taken'⟩ =
      f.runs ++ [⟨i, feed', taken'⟩] := by
    rw [List.set_append_right _ _ (Nat.le_refl _), Nat.sub_self, List.set_cons_zero]
  have vehicles := congrArg Fleet.vehicles (f.setState_setState i st st')
  exact congrArg₂ (Fleet.mk f.coloured) vehicles runs

theorem serve_joined (hv : f.vehicles[i]? = some v) (st : State) (feed : Feed)
    (taken quota : Nat) :
    (f.joined i st feed taken).serve (.next f.runs.length quota) =
      let (x, next) := feed.resume v.settings f.coloured quota st
      (f.joined i x.state next (taken + x.taken), ⟨.stretch x (taken + x.taken), x.log⟩) := by
  have hk : (f.joined i st feed taken).runs[f.runs.length]? = some ⟨i, feed, taken⟩ :=
    List.getElem?_concat_length ..
  have hv : (f.joined i st feed taken).vehicles[i]? = some { v with state := st } := by
    change (f.setState i st).vehicles[i]? = _
    rw [setState_vehicles, if_pos rfl, hv]
    rfl
  rw [serve_next hk hv]
  exact congrArg (·, _) (joined_set ..)

theorem serveAll_stops {last st : State} {outputs : List Text} {left : Nat} {feed : Feed}
    {ending : Ending} (taken : Nat) (hv : f.vehicles[i]? = some v)
    (stops : feed.Stops v.settings f.coloured last st outputs left ending) {quotas : List Nat}
    (few : quotas.sum ≤ outputs.length) :
    (f.joined i st feed taken).outputsOf f.runs.length (quotas.map (.next f.runs.length)) =
        outputs.take quotas.sum ∧
      ∃ st' feed' taken' left',
        (f.joined i st feed taken).serveAll (quotas.map (.next f.runs.length)) =
          f.joined i st' feed' taken' ∧
        taken' + left' = taken + left ∧
        feed'.Stops v.settings f.coloured last st' (outputs.drop quotas.sum) left' ending := by
  induction quotas generalizing st feed taken left outputs with
  | nil => exact ⟨rfl, st, feed, taken, left, rfl, rfl, stops⟩
  | cons quota quotas ih =>
      rw [List.sum_cons] at few ⊢
      obtain ⟨given, left', count, paused⟩ :=
        stops.resume_paused (Nat.le_trans (Nat.le_add_right quota quotas.sum) few)
      have served := serve_joined hv st feed taken quota
      generalize feed.resume v.settings f.coloured quota st = pair at given count paused served
      obtain ⟨x, next⟩ := pair
      have few : quotas.sum ≤ (outputs.drop quota).length := by
        rw [List.length_drop]
        omega
      obtain ⟨others, st', feed', taken', left', all, counts, stops⟩ :=
        ih (taken + x.taken) paused few
      have counts : taken' + left' = taken + left := by
        rw [counts, Nat.add_assoc, ← count]
      refine ⟨?_, st', feed', taken', left', ?_, counts, ?_⟩
      · rw [List.map_cons, outputsOf, served, List.take_add, ← given, ← others]
        simp only [Request.run?, if_true]
        rfl
      · rw [List.map_cons, serveAll, List.foldl_cons, served]
        exact all
      · rw [← List.drop_drop]
        exact stops

theorem serve_spent (hv : f.vehicles[i]? = some v) (st : State) (taken : Nat) {quota : Nat}
    (asked : quota ≠ 0) :
    (f.joined i st .spent taken).serve (.next f.runs.length quota) =
      (f.joined i st .spent taken, ⟨.stretch ⟨st, [], [], 0, .finished⟩ taken, []⟩) := by
  rw [serve_joined hv, Feed.resume_of_ne_zero _ _ _ _ asked]
  rfl

theorem runsTo_of_stops {stream : Stream} {outputs : List Text} {last : State} {taken : Nat}
    {ending : Ending} (hv : f.vehicles[i]? = some v)
    (stops : (Feed.waiting stream).Stops v.settings f.coloured last v.state outputs taken ending) :
    f.RunsTo i stream outputs last taken ending where
  lazily := by
    intro sooner quota few more
    rw [serve_start_joined hv stream]
    obtain ⟨given, st, feed, taken', left, all, count, rest⟩ :=
      serveAll_stops 0 hv stops few
    have more : (outputs.drop sooner.sum).length < quota := by
      rw [List.length_drop]
      omega
    obtain ⟨x, resumed, rfl, last, rfl, ends⟩ := rest.resume_stopped more
    rw [Nat.zero_add] at count
    refine ⟨given, x, ?_, last, ends⟩
    rw [all, serve_joined hv, resumed]
    dsimp only
    rw [count]
  finished _ asked := serve_spent hv last taken asked
  eagerly := by
    obtain ⟨state, count, ends⟩ := stops.process
    refine ⟨v.settings.process f.coloured v.state stream, ?_, ends⟩
    simp only [serve, hv, carryOut, state, count]

/-- A source is executed up to its first item that cannot be read, which is neither executed nor
counted; a file that cannot be opened leaves everything as it was. -/
theorem read_failure_stops {f : Fleet} {i : Nat} {v : Vehicle} (hv : f.vehicles[i]? = some v) :
    (∀ stream source before item rest cause,
      (Feed.waiting stream).opens? = some source →
      (Feed.waiting stream).items v.settings = before ++ item :: rest →
      v.settings.Passes (v.settings.opening v.state source) before →
      v.settings.lineOf item = .error (some cause) →
      ∃ outputs last,
        (v.settings.lineByLine (v.settings.opening v.state source)
          (v.settings.linesOf before)).result = .ok outputs ∧
        (v.settings.lineByLine (v.settings.opening v.state source)
          (v.settings.linesOf before)).state = last ∧
        last.lineNumber = before.length ∧
        f.RunsTo i stream outputs last (before.length + 1)
          (f.failure (some (before.length + 1)) source cause)) ∧
    ∀ name e, e ≠ .unusable →
      ∃ cause, e.text? name = some cause ∧
        f.RunsTo i (.file name (.error e)) [] v.state 0 (f.failure none (some name) cause) := by
  constructor
  · intro stream source before item rest cause opens split passed bad
    obtain ⟨outputs, given, fails⟩ := Settings.fails_of_passes passed bad rest
    rw [← split] at fails
    obtain ⟨number, name⟩ := fails.label
    have number : _ = before.length := number.trans (Nat.zero_add before.length)
    have stops := runsTo_of_stops hv (.waiting opens fails)
    rw [Settings.unreadable, number, name] at stops
    exact ⟨outputs, _, given, rfl, number, stops⟩
  · intro name e known
    obtain ⟨cause, told⟩ : ∃ cause, e.text? name = some cause := by
      cases e with
      | unusable => exact absurd rfl known
      | _ => exact ⟨_, rfl⟩
    have stops := runsTo_of_stops hv (.unopened name e)
    rw [Feed.unopened, told] at stops
    exact ⟨cause, told, stops⟩

theorem read_failure_stops_fifth :
    ∃ (f : Fleet) (v : Vehicle) (last : State), f.vehicles[0]? = some v ∧
      f.RunsTo 0
        (.given (.items [.text "DEPLOY 0,0,NORTH".toList, .text "REPORT".toList,
          .raw [0x4D, 0x4F, 0x56, 0x45], .text "REPORT".toList, .raw [0xFF], .text "LEFT".toList,
          .unreadable "gone".toList]) (some "moves".toList))
        ["0,0,NORTH".toList, "0,1,NORTH".toList] last 5
        (f.failure (some 5) (some "moves".toList)
          "'utf-8' codec can't decode byte 0xff in position 0: invalid start byte".toList) ∧
      last.position = some ⟨0, 1⟩ ∧ last.lineNumber = 4 ∧
      f.RunsTo 0 (.file "moves".toList (.error .missing)) [] v.state 0
        (f.failure none (some "moves".toList)
          "[Errno 2] No such file or directory: 'moves'".toList) := by
  let v : Vehicle := ⟨Settings.standard, State.initial⟩
  let f : Fleet := ⟨false, [v], []⟩
  let before : List Item := [.text "DEPLOY 0,0,NORTH".toList, .text "REPORT".toList,
    .raw [0x4D, 0x4F, 0x56, 0x45], .text "REPORT".toList]
  let rest : List Item := [.text "LEFT".toList, .unreadable "gone".toList]
  have hv : f.vehicles[0]? = some v := rfl
  obtain ⟨stopped, unopened⟩ := read_failure_stops hv
  have finished : (v.settings.advanceBy false (before.length + 1)
      (v.settings.opening v.state (some "moves".toList)) before).ending = .finished := by
    decide +kernel
  have passed : v.settings.Passes (v.settings.opening v.state (some "moves".toList)) before :=
    (Settings.advanceBy_finished_iff (Nat.lt_succ_self _)).1 finished
  obtain ⟨outputs, last, given, rfl, number, runs⟩ :=
    stopped (.given (.items (before ++ .raw [0xFF] :: rest)) (some "moves".toList)) _ before
      (.raw [0xFF]) rest
      "'utf-8' codec can't decode byte 0xff in position 0: invalid start byte".toList rfl rfl passed
      (by decide +kernel)
  have outputs_eq : outputs = ["0,0,NORTH".toList, "0,1,NORTH".toList] := by
    have computed : (v.settings.lineByLine (v.settings.opening v.state (some "moves".toList))
        (v.settings.linesOf before)).result =
          .ok ["0,0,NORTH".toList, "0,1,NORTH".toList] := by decide +kernel
    exact Except.ok.inj (given.symm.trans computed)
  obtain ⟨cause, told, closed⟩ := unopened "moves".toList .missing (by decide)
  have quoted : FileError.text? "moves".toList .missing =
      some "[Errno 2] No such file or directory: 'moves'".toList := by decide +kernel
  obtain rfl := Option.some.inj (told.symm.trans quoted)
  rw [outputs_eq] at runs
  exact ⟨f, v, _, hv, runs, by decide +kernel, number, closed⟩

end Fleet

end Rover
