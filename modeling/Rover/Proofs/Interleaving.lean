import Rover.Proofs.Alike
import Rover.Proofs.Upshot

namespace Rover

inductive Act where
  | line (text : Text)
  | reset
  deriving DecidableEq, Repr

/-- An act, and the run on whose behalf it was done, if on any. -/
structure Record where
  run : Option Nat
  act : Act
  deriving DecidableEq, Repr

def Record.own (k : Nat) (history : List Record) : List Act :=
  history.filterMap fun r => if r.run = some k then some r.act else none

theorem Record.own_append (k : Nat) (before after : List Record) :
    own k (before ++ after) = own k before ++ own k after := by
  simp only [own, List.filterMap_append]

theorem Record.own_eq_nil {k : Nat} {history : List Record}
    (foreign : ∀ r ∈ history, r.run ≠ some k) : own k history = [] := by
  apply List.filterMap_eq_nil_iff.2
  intro r member
  rw [if_neg (foreign r member)]

namespace Settings

variable (s : Settings)

def act (st : State) : Act → State
  | .line text => (s.execute st text).state
  | .reset => st.reset

def carry (st : State) (history : List Record) : State :=
  history.foldl (fun st r => s.act st r.act) st

def answer (st : State) : Act → List Text
  | .line text =>
      match (s.execute st text).result with
      | .ok output => output.toList
      | .error _ => []
  | .reset => []

def outputsBy (k : Nat) : State → List Record → List Text
  | _, [] => []
  | st, r :: rest =>
      (if r.run = some k then s.answer st r.act else []) ++ outputsBy k (s.act st r.act) rest

/-- A source that is opened is recorded as a reset, unless the state is kept. -/
def record? (run : Option Nat) : Event → Option Record
  | .line text => some ⟨run, .line text⟩
  | .reset => some ⟨run, .reset⟩
  | .opening _ => if s.keepsState then none else some ⟨run, .reset⟩

theorem carry_append (st : State) (before after : List Record) :
    s.carry st (before ++ after) = s.carry (s.carry st before) after :=
  List.foldl_append

theorem outputsBy_append (k : Nat) (st : State) (before after : List Record) :
    s.outputsBy k st (before ++ after) =
      s.outputsBy k st before ++ s.outputsBy k (s.carry st before) after := by
  induction before generalizing st with
  | nil => rfl
  | cons r before ih =>
      rw [List.cons_append, outputsBy, outputsBy, ih, List.append_assoc]
      rfl

theorem outputsBy_eq_nil {k : Nat} {history : List Record}
    (foreign : ∀ r ∈ history, r.run ≠ some k) (st : State) : s.outputsBy k st history = [] := by
  induction history generalizing st with
  | nil => rfl
  | cons r rest ih =>
      obtain ⟨first, others⟩ := List.forall_mem_cons.1 foreign
      rw [outputsBy, if_neg first, ih others, List.nil_append]

theorem linesOf_append (before after : List Item) :
    s.linesOf (before ++ after) = s.linesOf before ++ s.linesOf after :=
  List.filterMap_append

variable {s} {st st' : State}

theorem act_alike (alike : State.Alike st st') (a : Act) :
    State.Alike (s.act st a) (s.act st' a) := by
  cases a with
  | line text => exact (execute_alike alike text).2
  | reset => exact ⟨rfl, rfl, rfl, rfl, rfl⟩

theorem answer_alike (alike : State.Alike st st') (a : Act) : s.answer st a = s.answer st' a := by
  cases a with
  | line text => simp only [answer, (execute_alike alike text).1]
  | reset => rfl

theorem outputsBy_alike (k : Nat) (alike : State.Alike st st') (history : List Record) :
    s.outputsBy k st history = s.outputsBy k st' history := by
  induction history generalizing st st' with
  | nil => rfl
  | cons r rest ih => rw [outputsBy, outputsBy, answer_alike alike, ih (act_alike alike r.act)]

theorem happen_alike (run : Option Nat) (alike : State.Alike st st') (e : Event) :
    State.Alike (s.happen st e) (s.carry st' (s.record? run e).toList) := by
  cases e with
  | line text => exact act_alike alike (.line text)
  | reset => exact act_alike (s := s) alike .reset
  | opening source =>
      cases keeps : s.keepsState with
      | true =>
          simp only [happen, opening, record?, keeps, if_true]
          exact ⟨alike.activated, alike.position, alike.heading, alike.pits, alike.chain⟩
      | false =>
          simp only [happen, opening, record?, keeps, Bool.false_eq_true, if_false]
          exact ⟨rfl, rfl, rfl, rfl, rfl⟩

theorem replay_alike (run : Option Nat) (alike : State.Alike st st') (events : List Event) :
    State.Alike (s.replay st events) (s.carry st' (events.filterMap (s.record? run))) := by
  induction events generalizing st st' with
  | nil => exact alike
  | cons e rest ih =>
      have first := happen_alike (s := s) run alike e
      rw [replay_cons, List.filterMap_cons]
      cases recorded : s.record? run e with
      | none =>
          rw [recorded] at first
          exact ih first
      | some r =>
          rw [recorded] at first
          exact ih first

theorem advanceBy_rest (coloured : Bool) (quota : Nat) (st : State) (items : List Item) :
    (s.advanceBy coloured quota st items).taken ≤ items.length ∧
      (s.advanceBy coloured quota st items).rest =
        items.drop (s.advanceBy coloured quota st items).taken := by
  fun_induction advanceBy s coloured quota st items with
  | case1 st items => exact ⟨Nat.zero_le _, rfl⟩
  | case2 st quota => exact ⟨Nat.le_refl _, rfl⟩
  | case3 st quota item rest cause bad => exact ⟨by simp, rfl⟩
  | case4 st quota item rest bad => exact ⟨by simp, rfl⟩
  | case5 st quota item rest line holds turn c failed => exact ⟨by simp, rfl⟩
  | case6 st quota item rest line holds turn ok ih =>
      exact ⟨Nat.succ_le_succ ih.1, ih.2⟩
  | case7 st quota item rest line holds turn output ok ih =>
      exact ⟨Nat.succ_le_succ ih.1, ih.2⟩

theorem outputs_preceded (entries : List Entry) (x : Stretch) :
    (x.preceded entries).outputs = entries.filterMap Entry.output? ++ x.outputs :=
  List.filterMap_append

theorem outputs_preceded_silent (t : Turn) (x : Stretch) :
    (x.preceded t.entries).outputs = x.outputs := by
  rw [outputs_preceded, t.outputs_entries, List.nil_append]

theorem outputs_preceded_output (t : Turn) (output : Text) (x : Stretch) :
    (x.preceded (t.entries ++ [.output output])).outputs = output :: x.outputs := by
  rw [outputs_preceded, List.filterMap_append, t.outputs_entries]
  rfl

theorem advanceBy_outputs (k : Nat) (coloured : Bool) (quota : Nat) (st : State)
    (items : List Item) :
    (s.advanceBy coloured quota st items).outputs =
      s.outputsBy k st
        ((s.linesOf (items.take (s.advanceBy coloured quota st items).taken)).map
          fun line => ⟨some k, .line line⟩) := by
  fun_induction advanceBy s coloured quota st items with
  | case1 st items => rfl
  | case2 st quota => exact (s.announce_silent _).2
  | case3 st quota item rest cause bad =>
      rw [List.take_succ_cons, List.take_zero, s.linesOf_cons_error bad]
      rfl
  | case4 st quota item rest bad =>
      rw [List.take_succ_cons, List.take_zero, s.linesOf_cons_error bad]
      rfl
  | case5 st quota item rest line holds turn c failed =>
      rw [List.take_succ_cons, List.take_zero, s.linesOf_cons_ok holds]
      simp only [linesOf, List.filterMap_nil, List.map_cons, List.map_nil, outputsBy, answer,
        turn, failed, if_true]
      exact turn.outputs_entries
  | case6 st quota item rest line holds turn ok ih =>
      rw [outputs_preceded_silent, ih]
      simp only [Stretch.preceded, List.take_succ_cons, s.linesOf_cons_ok holds, List.map_cons,
        outputsBy, if_true, answer, turn, ok]
      rfl
  | case7 st quota item rest line holds turn output ok ih =>
      rw [outputs_preceded_output, ih]
      simp only [Stretch.preceded, List.take_succ_cons, s.linesOf_cons_ok holds, List.map_cons,
        outputsBy, if_true, answer, turn, ok]
      rfl

end Settings

namespace Feed

variable {s : Settings} {coloured : Bool} {quota : Nat} {st st' : State} {feed : Feed}

theorem run_rest (s : Settings) (coloured : Bool) (quota : Nat) (st : State) (feed : Feed) :
    (feed.run s coloured quota st).taken ≤ (feed.items s).length ∧
      (feed.run s coloured quota st).rest =
        (feed.items s).drop (feed.run s coloured quota st).taken := by
  cases feed with
  | spent => exact ⟨Nat.le_refl _, rfl⟩
  | running rest => exact Settings.advanceBy_rest coloured quota st rest
  | waiting stream =>
      cases stream with
      | given input source => exact Settings.advanceBy_rest coloured quota _ _
      | file name content =>
          cases content with
          | ok content => exact Settings.advanceBy_rest coloured quota _ _
          | error e => exact ⟨Nat.le_refl _, rfl⟩

theorem records_eq (k : Nat) (s : Settings) (coloured : Bool) (quota : Nat) (st : State)
    (feed : Feed) :
    (feed.events s coloured quota st).filterMap (s.record? (some k)) =
      (feed.opens?.bind fun source => s.record? (some k) (.opening source)).toList ++
        (s.linesOf ((feed.items s).take (feed.run s coloured quota st).taken)).map
          fun line => ⟨some k, .line line⟩ := by
  have lines (texts : List Text) : (texts.map Event.line).filterMap (s.record? (some k)) =
      texts.map fun line => ⟨some k, .line line⟩ := by
    rw [List.filterMap_map]
    exact congrFun List.filterMap_eq_map texts
  rw [events, List.filterMap_append, lines]
  cases feed.opens? with
  | none => rfl
  | some source => cases recorded : s.record? (some k) (.opening source) <;> simp [recorded]

theorem resume_of_ne_zero (s : Settings) (coloured : Bool) (st : State) (feed : Feed)
    (asked : quota ≠ 0) :
    feed.resume s coloured quota st =
      (feed.run s coloured quota st, after (feed.run s coloured quota st)) :=
  if_neg asked

theorem opens?_after (x : Stretch) : (after x).opens? = none := by
  unfold after
  cases x.ending <;> rfl

theorem items_after (s : Settings) (x : Stretch) :
    (after x).items s = x.rest ∨ (after x).items s = [] := by
  unfold after
  cases x.ending with
  | paused => exact .inl rfl
  | _ => exact .inr rfl

theorem take_after (s : Settings) (coloured : Bool) (quota : Nat) (st : State) (feed : Feed)
    {n : Nat} (le : n ≤ ((after (feed.run s coloured quota st)).items s).length) :
    (feed.run s coloured quota st).taken + n ≤ (feed.items s).length ∧
      (feed.items s).take ((feed.run s coloured quota st).taken + n) =
        (feed.items s).take (feed.run s coloured quota st).taken ++
          ((after (feed.run s coloured quota st)).items s).take n := by
  obtain ⟨most, rest⟩ := run_rest s coloured quota st feed
  rcases items_after s (feed.run s coloured quota st) with left | nothing
  · rw [left, rest] at le ⊢
    rw [List.length_drop] at le
    exact ⟨by omega, List.take_add⟩
  · rw [nothing] at le ⊢
    obtain rfl : n = 0 := Nat.le_zero.1 le
    exact ⟨most, by simp⟩

theorem begin_outputs (items : List Item) (source : Option Text) :
    (Feed.begin s coloured quota st items source).outputs =
      (s.advanceBy coloured quota (s.opening st source) items).outputs := by
  simp only [Feed.begin, Stretch.outputs, List.filterMap_append, (s.announce_silent _).2,
    List.nil_append]

theorem run_outputs (k : Nat) (alike : State.Alike st st') :
    (feed.run s coloured quota st).outputs =
      s.outputsBy k st' ((feed.events s coloured quota st).filterMap (s.record? (some k))) := by
  have begun (items : List Item) (source : Option Text) :
      (Feed.begin s coloured quota st items source).outputs =
        s.outputsBy k st' ((s.record? (some k) (.opening source)).toList ++
          (s.linesOf (items.take
            (s.advanceBy coloured quota (s.opening st source) items).taken)).map
              fun line => ⟨some k, .line line⟩) := by
    have silent : s.outputsBy k st' (s.record? (some k) (.opening source)).toList = [] := by
      cases keeps : s.keepsState <;> simp [Settings.record?, keeps, Settings.outputsBy,
        Settings.answer]
    have opened : State.Alike (s.opening st source) _ :=
      Settings.happen_alike (some k) alike (.opening source)
    rw [begin_outputs, Settings.advanceBy_outputs k, Settings.outputsBy_append, silent,
      List.nil_append]
    exact Settings.outputsBy_alike k opened _
  rw [records_eq]
  cases feed with
  | spent => rfl
  | running rest =>
      refine (Settings.advanceBy_outputs k coloured quota st rest).trans ?_
      exact Settings.outputsBy_alike k alike _
  | waiting stream =>
      cases stream with
      | given input source => exact begun _ source
      | file name content =>
          cases content with
          | ok content => exact begun _ (some name)
          | error e => rfl

end Feed

namespace Request

def run? : Request → Option Nat
  | .next k _ => some k
  | _ => none

/-- Whether run `k`, waiting to begin, is asked for an output before it is closed. -/
def begins (k : Nat) : List Request → Bool
  | [] => false
  | .next j quota :: rest => j = k && quota ≠ 0 || begins k rest
  | .close j :: rest => j ≠ k && begins k rest
  | _ :: rest => begins k rest

end Request

def Answer.yielded : Answer → List Text
  | .stretch x _ => x.outputs
  | _ => []

namespace Fleet

def serveAll (f : Fleet) (requests : List Request) : Fleet :=
  requests.foldl (fun f r => (f.serve r).1) f

def outputsOf (k : Nat) : Fleet → List Request → List Text
  | _, [] => []
  | f, r :: rest =>
      (if r.run? = some k then (f.serve r).2.answer.yielded else []) ++
        outputsOf k (f.serve r).1 rest

def records (f : Fleet) (i : Nat) (r : Request) : List Record :=
  match f.vehicles[i]? with
  | some v => (f.events i v r).filterMap (v.settings.record? r.run?)
  | none => []

def history (i : Nat) : Fleet → List Request → List Record
  | _, [] => []
  | f, r :: rest => f.records i r ++ history i (f.serve r).1 rest

theorem serveAll_append (f : Fleet) (before after : List Request) :
    f.serveAll (before ++ after) = (f.serveAll before).serveAll after :=
  List.foldl_append

theorem history_append (i : Nat) (f : Fleet) (before after : List Request) :
    f.history i (before ++ after) = f.history i before ++ (f.serveAll before).history i after := by
  induction before generalizing f with
  | nil => rfl
  | cons r before ih =>
      rw [List.cons_append, history, history, ih, List.append_assoc]
      rfl

section

variable {f : Fleet} {i k : Nat} {v : Vehicle} {run : Run} {r : Request}

theorem serve_start (f : Fleet) {i : Nat} {v : Vehicle} (hv : f.vehicles[i]? = some v)
    (stream : Stream) :
    (f.serve (.send i (.start stream))).1 =
      { f with runs := f.runs ++ [⟨i, .waiting stream, 0⟩] } := by
  simp only [serve, hv, carryOut]

theorem serve_next (hk : f.runs[k]? = some run) (hv : f.vehicles[run.vehicle]? = some v)
    (quota : Nat) : f.serve (.next k quota) = f.next k run v quota := by
  simp only [serve, hk, hv]

theorem serve_next_runs (hk : f.runs[k]? = some run) (hv : f.vehicles[run.vehicle]? = some v)
    (quota : Nat) :
    (f.serve (.next k quota)).1.runs[k]? =
      some { run with
        feed := (run.feed.resume v.settings f.coloured quota v.state).2
        taken := run.taken + (run.feed.resume v.settings f.coloured quota v.state).1.taken } := by
  have lt := (List.getElem?_eq_some_iff.1 hk).1
  rw [serve_next hk hv]
  exact List.getElem?_set_self lt

theorem serve_close_runs (hk : f.runs[k]? = some run) :
    (f.serve (.close k)).1.runs[k]? = some { run with feed := .spent } := by
  have lt := (List.getElem?_eq_some_iff.1 hk).1
  simp only [serve, hk]
  exact List.getElem?_set_self lt

theorem serve_runs (hk : f.runs[k]? = some run) (other : r.run? ≠ some k) (open_ : r ≠ .close k) :
    (f.serve r).1.runs[k]? = some run := by
  have lt := (List.getElem?_eq_some_iff.1 hk).1
  cases r with
  | make plan =>
      simp only [serve, make]
      split
      · exact hk
      · split <;> exact hk
  | colour on => exact hk
  | send j errand =>
      simp only [serve]
      cases f.vehicles[j]? with
      | none => exact hk
      | some w =>
          cases errand with
          | start stream => exact (List.getElem?_append_left lt).trans hk
          | _ => exact hk
  | next j quota =>
      have ne : j ≠ k := fun eq => other (congrArg some eq)
      simp only [serve]
      cases f.runs[j]? with
      | none => exact hk
      | some run' =>
          dsimp only
          cases f.vehicles[run'.vehicle]? with
          | none => exact hk
          | some w => exact (List.getElem?_set_ne ne).trans hk
  | close j =>
      have ne : j ≠ k := fun eq => open_ (congrArg Request.close eq)
      simp only [serve]
      cases f.runs[j]? with
      | none => exact hk
      | some run' => exact (List.getElem?_set_ne ne).trans hk

theorem serve_run_vehicle (hk : f.runs[k]? = some run) (r : Request) :
    ∃ run', (f.serve r).1.runs[k]? = some run' ∧ run'.vehicle = run.vehicle := by
  by_cases asked : r.run? = some k
  · obtain ⟨quota, rfl⟩ : ∃ quota, r = .next k quota := by
      cases r with
      | next j quota => exact ⟨quota, congrArg (Request.next · quota) (Option.some.inj asked)⟩
      | _ => cases asked
    cases hv : f.vehicles[run.vehicle]? with
    | none => exact ⟨run, by simp only [serve, hk, hv], rfl⟩
    | some v => exact ⟨_, serve_next_runs hk hv quota, rfl⟩
  · by_cases closed : r = .close k
    · subst closed
      exact ⟨_, serve_close_runs hk, rfl⟩
    · exact ⟨run, serve_runs hk asked closed, rfl⟩

theorem serveAll_run_vehicle (hk : f.runs[k]? = some run) (requests : List Request) :
    ∃ run', (f.serveAll requests).runs[k]? = some run' ∧ run'.vehicle = run.vehicle := by
  induction requests generalizing f run with
  | nil => exact ⟨run, hk, rfl⟩
  | cons r rest ih =>
      obtain ⟨between, hk, same⟩ := serve_run_vehicle hk r
      obtain ⟨run', hk, same'⟩ := ih hk
      exact ⟨run', hk, same'.trans same⟩

theorem records_eq (hv : f.vehicles[i]? = some v) :
    f.records i r = (f.events i v r).filterMap (v.settings.record? r.run?) := by
  simp only [records, hv]

theorem run_eq_of_mem_records {x : Record} (member : x ∈ f.records i r) : x.run = r.run? := by
  unfold records at member
  split at member
  · obtain ⟨e, -, recorded⟩ := List.mem_filterMap.1 member
    cases e with
    | line text => exact congrArg Record.run (Option.some.inj recorded).symm
    | reset => exact congrArg Record.run (Option.some.inj recorded).symm
    | opening source =>
        simp only [Settings.record?] at recorded
        split at recorded
        · cases recorded
        · exact congrArg Record.run (Option.some.inj recorded).symm
  · cases member

theorem run_ne_of_mem_records {x : Record} (other : r.run? ≠ some k) (member : x ∈ f.records i r) :
    x.run ≠ some k := by
  rw [run_eq_of_mem_records member]
  exact other

theorem records_of_missing (missing : f.runs[k]? = none) (quota : Nat) :
    f.records i (.next k quota) = [] := by
  unfold records
  cases f.vehicles[i]? with
  | none => rfl
  | some v => simp only [events, missing, List.filterMap_nil]

theorem serve_records (hv : f.vehicles[i]? = some v) (fair : r.IsFair) {st : State}
    (alike : v.state.Alike st) :
    ∃ st', (f.serve r).1.vehicles[i]? = some { v with state := st' } ∧
      st'.Alike (v.settings.carry st (f.records i r)) := by
  refine ⟨_, f.serve_vehicles i v hv r fair, ?_⟩
  rw [records_eq hv]
  exact Settings.replay_alike r.run? alike _

theorem serve_yielded (hv : f.vehicles[i]? = some v) {st : State} (alike : v.state.Alike st)
    (driven : ∀ run, f.runs[k]? = some run → run.vehicle = i) :
    (if r.run? = some k then (f.serve r).2.answer.yielded else []) =
      v.settings.outputsBy k st (f.records i r) := by
  split
  · rename_i asked
    cases r with
    | next j quota =>
        obtain rfl : j = k := Option.some.inj asked
        cases hk : f.runs[j]? with
        | none =>
            rw [records_of_missing hk]
            simp only [serve, hk]
            rfl
        | some run =>
            obtain rfl := driven run hk
            rw [serve_next hk hv, records_eq hv]
            simp only [events, hk, next, Feed.resume, true_and]
            by_cases none_asked : quota = 0
            · simp only [none_asked, ne_eq, not_true_eq_false, if_true, if_false]
              rfl
            · simp only [none_asked, ne_eq, not_false_eq_true, if_true, if_false]
              exact Feed.run_outputs j alike
    | _ => cases asked
  · rename_i other
    exact (v.settings.outputsBy_eq_nil (fun x member => run_ne_of_mem_records other member) st).symm

theorem serveAll_history (hv : f.vehicles[i]? = some v) {requests : List Request}
    (fair : ∀ r ∈ requests, r.IsFair) {st : State} (alike : v.state.Alike st) :
    (∃ st', (f.serveAll requests).vehicles[i]? = some { v with state := st' } ∧
      st'.Alike (v.settings.carry st (f.history i requests))) ∧
    ((∀ run, (f.serveAll requests).runs[k]? = some run → run.vehicle = i) →
      f.outputsOf k requests = v.settings.outputsBy k st (f.history i requests)) := by
  induction requests generalizing f v st with
  | nil => exact ⟨⟨v.state, hv, alike⟩, fun _ => rfl⟩
  | cons r rest ih =>
      obtain ⟨first, others⟩ := List.forall_mem_cons.1 fair
      obtain ⟨st', hv', alike'⟩ := serve_records hv first alike
      obtain ⟨state, outputs⟩ := ih hv' others alike'
      refine ⟨?_, fun driven => ?_⟩
      · rw [history, Settings.carry_append]
        exact state
      · rw [outputsOf, history, Settings.outputsBy_append, outputs driven]
        congr 1
        apply serve_yielded hv alike
        intro run hk
        obtain ⟨run', hk', same⟩ := serveAll_run_vehicle hk (r :: rest)
        exact same.symm.trans (driven run' hk')

theorem own_records_other (other : r.run? ≠ some k) : Record.own k (f.records i r) = [] :=
  Record.own_eq_nil fun _ member => run_ne_of_mem_records other member

theorem own_records_next {feed : Feed} {taken : Nat} (hk : f.runs[k]? = some ⟨i, feed, taken⟩)
    (hv : f.vehicles[i]? = some v) {quota : Nat} (asked : quota ≠ 0) :
    Record.own k (f.records i (.next k quota)) =
      (if feed.opens?.isSome && !v.settings.keepsState then [.reset] else []) ++
        (v.settings.linesOf ((feed.items v.settings).take
          (feed.run v.settings f.coloured quota v.state).taken)).map .line := by
  have events : f.events i v (.next k quota) =
      feed.events v.settings f.coloured quota v.state := by
    simp only [Fleet.events, hk, asked, ne_eq, not_false_eq_true, and_self, if_true]
  have lines (texts : List Text) :
      Record.own k (texts.map fun line => ⟨some k, .line line⟩) = texts.map Act.line := by
    rw [Record.own, List.filterMap_map]
    simp
  rw [records_eq hv, events, Request.run?, Feed.records_eq, Record.own_append, lines]
  cases feed.opens? with
  | none => rfl
  | some source =>
      cases keeps : v.settings.keepsState <;> simp [Settings.record?, keeps, Record.own]

theorem records_next_zero (k : Nat) : f.records i (.next k 0) = [] := by
  unfold records
  cases f.vehicles[i]? with
  | none => rfl
  | some v => cases hk : f.runs[k]? <;> simp [events, hk]

theorem begins_cons (other : r.run? ≠ some k) (kept : r ≠ .close k) (rest : List Request) :
    Request.begins k (r :: rest) = Request.begins k rest := by
  cases r with
  | next j quota =>
      have ne : j ≠ k := fun eq => other (congrArg some eq)
      simp [Request.begins, ne]
  | close j =>
      have ne : j ≠ k := fun eq => kept (congrArg Request.close eq)
      simp [Request.begins, ne]
  | _ => rfl

/-- Run by run: what a run does from now on is a first stretch of what is left in its feed. -/
theorem own_history {feed : Feed} {taken : Nat} (hv : f.vehicles[i]? = some v)
    (hk : f.runs[k]? = some ⟨i, feed, taken⟩) {requests : List Request}
    (fair : ∀ r ∈ requests, r.IsFair) :
    ∃ last n, (f.serveAll requests).runs[k]? = some ⟨i, last, taken + n⟩ ∧
      n ≤ (feed.items v.settings).length ∧
      Record.own k (f.history i requests) =
        (if feed.opens?.isSome && Request.begins k requests && !v.settings.keepsState then [.reset]
          else []) ++ (v.settings.linesOf ((feed.items v.settings).take n)).map .line := by
  induction requests generalizing f v feed taken with
  | nil =>
      refine ⟨feed, 0, hk, Nat.zero_le _, ?_⟩
      simp [history, Record.own, Request.begins, Settings.linesOf]
  | cons r rest ih =>
      obtain ⟨first, others⟩ := List.forall_mem_cons.1 fair
      have hv' := f.serve_vehicles i v hv r first
      rw [history, Record.own_append]
      by_cases asked : r.run? = some k
      · obtain ⟨quota, rfl⟩ : ∃ quota, r = .next k quota := by
          cases r with
          | next j quota => exact ⟨quota, congrArg (Request.next · quota) (Option.some.inj asked)⟩
          | _ => cases asked
        have hk' := serve_next_runs hk hv quota
        by_cases none_asked : quota = 0
        · subst none_asked
          obtain ⟨last, n, final, le, own⟩ := ih hv' hk' others
          refine ⟨last, n, final, le, ?_⟩
          rw [records_next_zero, own]
          simp [Request.begins, Record.own, Feed.resume]
        · have resumed := Feed.resume_of_ne_zero v.settings f.coloured v.state feed none_asked
          rw [resumed] at hk'
          obtain ⟨last, n, final, le, own⟩ := ih hv' hk' others
          obtain ⟨most, stretch⟩ := Feed.take_after v.settings f.coloured quota v.state feed le
          refine ⟨last, _, ?_, most, ?_⟩
          · rw [← Nat.add_assoc]
            exact final
          · rw [own_records_next hk hv none_asked, own, Feed.opens?_after, stretch,
              Settings.linesOf_append, List.map_append]
            simp [Request.begins, none_asked]
      · by_cases closed : r = .close k
        · subst closed
          obtain ⟨last, n, final, le, own⟩ := ih hv' (serve_close_runs hk) others
          obtain rfl : n = 0 := Nat.le_zero.1 le
          refine ⟨last, 0, final, Nat.zero_le _, ?_⟩
          rw [own_records_other asked, own]
          simp [Request.begins, Feed.opens?, Settings.linesOf]
        · obtain ⟨last, n, final, le, own⟩ := ih hv' (serve_runs hk asked closed) others
          refine ⟨last, n, final, le, ?_⟩
          rw [own_records_other asked, own, List.nil_append, begins_cons asked closed]

theorem own_history_eq_nil {requests : List Request}
    (absent : (f.serveAll requests).runs[k]? = none) :
    Record.own k (f.history i requests) = [] := by
  induction requests generalizing f with
  | nil => rfl
  | cons r rest ih =>
      rw [history, Record.own_append, ih absent, List.append_nil]
      cases hk : f.runs[k]? with
      | some run =>
          obtain ⟨run', hk', -⟩ := serveAll_run_vehicle hk (r :: rest)
          rw [absent] at hk'
          cases hk'
      | none =>
          apply Record.own_eq_nil
          intro x member asked
          rw [run_eq_of_mem_records member] at asked
          cases r with
          | next j quota =>
              obtain rfl : j = k := Option.some.inj asked
              rw [records_of_missing hk] at member
              cases member
          | _ => cases asked

end

/-- However runs of a vehicle are started, advanced and closed, and lines and resets come between:
starting and closing do nothing to it; its state is what the lines that were taken make of it, each
executed once, in the order of time, with a reset where one was asked for and where a run began that
does not keep the state; and each run takes a first stretch of its own lines in order and gives the
outputs of just these. -/
theorem runs_interleaved {f : Fleet} {i : Nat} {v : Vehicle} (hv : f.vehicles[i]? = some v)
    (requests : List Request) (fair : ∀ r ∈ requests, r.IsFair) :
    (∀ (g : Fleet) (j : Nat) (stream : Stream),
      (g.serve (.send j (.start stream))).1.vehicles = g.vehicles ∧
        (g.serve (.close j)).1.vehicles = g.vehicles) ∧
    (∃ st, (f.serveAll requests).vehicles[i]? = some { v with state := st } ∧
      st.Alike (v.settings.carry v.state (f.history i requests))) ∧
    (∀ k, (∀ run, (f.serveAll requests).runs[k]? = some run → run.vehicle = i) →
      f.outputsOf k requests = v.settings.outputsBy k v.state (f.history i requests)) ∧
    ∀ before input source after,
      requests = before ++ .send i (.start (.given input source)) :: after →
        ∃ feed n, (f.serveAll requests).runs[(f.serveAll before).runs.length]? =
            some ⟨i, feed, n⟩ ∧ n ≤ input.toItems.length ∧
          Record.own (f.serveAll before).runs.length (f.history i requests) =
            (if Request.begins (f.serveAll before).runs.length after && !v.settings.keepsState
              then [.reset] else []) ++
              (v.settings.linesOf (input.toItems.take n)).map .line := by
  have told := fun k => serveAll_history (k := k) hv fair (.refl v.state)
  refine ⟨fun g j stream => ⟨?_, ?_⟩, (told 0).1, fun k => (told k).2, ?_⟩
  · simp only [serve]
    cases g.vehicles[j]? <;> rfl
  · simp only [serve]
    cases g.runs[j]? <;> rfl
  · rintro before input source after rfl
    obtain ⟨sooner, later⟩ := List.forall_mem_append.1 fair
    obtain ⟨-, later⟩ := List.forall_mem_cons.1 later
    obtain ⟨⟨st, hv, -⟩, -⟩ := serveAll_history (k := 0) hv sooner (.refl v.state)
    have missing : (f.serveAll before).runs[(f.serveAll before).runs.length]? = none := by simp
    have started := serve_start _ hv (.given input source)
    rw [serveAll_append, history_append, Record.own_append, own_history_eq_nil missing, history,
      Record.own_append, own_records_other (by simp [Request.run?]), List.nil_append,
      List.nil_append]
    change ∃ feed n, ((Fleet.serve _ _).1.serveAll after).runs[_]? = some _ ∧ _
    rw [started]
    generalize f.serveAll before = g at hv
    obtain ⟨last, n, final, le, own⟩ := own_history (f := { g with
      runs := g.runs ++ [⟨i, .waiting (.given input source), 0⟩] }) hv
      (List.getElem?_concat_length ..) later
    rw [Nat.zero_add] at final
    refine ⟨last, n, final, le, ?_⟩
    exact own

theorem runs_interleaved_two :
    ∃ (f : Fleet) (v : Vehicle) (requests : List Request),
      f.vehicles[0]? = some v ∧ v.settings.keepsState = false ∧ (∀ r ∈ requests, r.IsFair) ∧
      f.outputsOf 0 requests =
        v.settings.outputsBy 0 v.state (f.history 0 requests) ∧
      f.outputsOf 0 requests = ["0,0,NORTH".toList, "2,1,EAST".toList] ∧
      f.outputsOf 1 requests = ["1,1,EAST".toList] ∧
      Record.own 1 (f.history 0 requests) =
        [.reset, .line "REPORT".toList, .line "DEPLOY 1,1,EAST".toList, .line "REPORT".toList] ∧
      ∃ st, (f.serveAll requests).vehicles[0]? = some { v with state := st } ∧
        st.Alike (v.settings.carry v.state (f.history 0 requests)) ∧ st.position = some ⟨2, 1⟩ := by
  let v : Vehicle := ⟨Settings.standard, State.initial⟩
  let f : Fleet := ⟨false, [v], []⟩
  let first : Input := .items [.text "DEPLOY 0,0,NORTH".toList, .text "REPORT".toList,
    .text "MOVE".toList, .raw [0x52, 0x45, 0x50, 0x4F, 0x52, 0x54], .text "LEFT".toList]
  let second : Input := .items [.text "REPORT".toList, .text "DEPLOY 1,1,EAST".toList,
    .text "REPORT".toList, .text "PIT 2,1".toList]
  let requests : List Request :=
    [.send 0 (.start (.given first none)), .send 0 (.start (.given second none)), .next 0 1,
      .send 0 (.execute "MOVE".toList), .next 1 1, .next 0 1, .close 1, .next 1 1]
  have fair : ∀ r ∈ requests, r.IsFair := by simp [requests, Request.IsFair]
  have hv : f.vehicles[0]? = some v := rfl
  obtain ⟨-, ⟨st, last, alike⟩, outputs, own⟩ := runs_interleaved hv requests fair
  have said : f.outputsOf 0 requests = ["0,0,NORTH".toList, "2,1,EAST".toList] := by
    decide +kernel
  have said' : f.outputsOf 1 requests = ["1,1,EAST".toList] := by decide +kernel
  have driven : ∀ run, (f.serveAll requests).runs[0]? = some run → run.vehicle = 0 := by
    have drives : (f.serveAll requests).runs[0]?.map Run.vehicle = some 0 := by decide +kernel
    intro run found
    rw [found] at drives
    exact Option.some.inj drives
  obtain ⟨feed, n, final, -, account⟩ := own [.send 0 (.start (.given first none))] second none
    _ rfl
  have taken : (f.serveAll requests).runs[1]?.map Run.taken = some 3 := by decide +kernel
  have place : (f.serveAll [.send 0 (.start (.given first none))]).runs.length = 1 := rfl
  rw [place] at final account
  rw [final] at taken
  obtain rfl : n = 3 := Option.some.inj taken
  have here : (f.serveAll requests).vehicles[0]?.map (·.state.position) = some (some ⟨2, 1⟩) := by
    decide +kernel
  rw [last] at here
  exact ⟨f, v, requests, hv, rfl, fair, outputs 0 driven, said, said',
    account.trans (by decide +kernel), st, last, alike, Option.some.inj here⟩

end Fleet

end Rover
