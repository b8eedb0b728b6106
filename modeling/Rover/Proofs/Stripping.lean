import Rover.Proofs.Interleaving
import Rover.Proofs.Isolation
import Rover.Proofs.Telling

namespace Rover

def Entry.isKept (traces : Bool) : Entry → Bool
  | .trace _ => traces
  | _ => true

def Entry.kept (traces : Bool) (log : List Entry) : List Entry := log.filter (Entry.isKept traces)

theorem Entry.kept_append (traces : Bool) (first second : List Entry) :
    kept traces (first ++ second) = kept traces first ++ kept traces second :=
  List.filter_append ..

theorem Entry.kept_warnings (traces : Bool) (log : List Entry) :
    (kept traces log).filterMap Entry.warning? = log.filterMap Entry.warning? := by
  induction log with
  | nil => rfl
  | cons e rest ih =>
      simp only [kept] at ih ⊢
      cases e with
      | trace line => cases traces <;> exact ih
      | warning text => exact congrArg (text :: ·) ih
      | output text => exact ih

theorem Entry.kept_outputs (traces : Bool) (log : List Entry) :
    (kept traces log).filterMap Entry.output? = log.filterMap Entry.output? := by
  induction log with
  | nil => rfl
  | cons e rest ih =>
      simp only [kept] at ih ⊢
      cases e with
      | trace line => cases traces <;> exact ih
      | warning text => exact ih
      | output text => exact congrArg (text :: ·) ih

def Stretch.breaksOff (x : Stretch) : Bool :=
  match x.ending with
  | .stopped (.crash c) => c.isUntold
  | _ => false

def Answer.breaksOff : Answer → Bool
  | .crash c => c.isUntold
  | .stretch x _ => x.breaksOff
  | _ => false

/-- Without colours, and without traces unless they are kept. -/
def Settings.stripped (traces : Bool) (s : Settings) : Settings :=
  { s with traced := traces && s.traced }

def Stretch.stripped (traces : Bool) (x : Stretch) : Stretch :=
  { x with log := Entry.kept traces x.log, ending := x.ending.recoloured false }

theorem Stretch.stripped_preceded (traces : Bool) (entries : List Entry) (x : Stretch) :
    (x.preceded entries).stripped traces =
      (x.stripped traces).preceded (Entry.kept traces entries) := by
  simp only [preceded, stripped, Entry.kept_append]

namespace Settings

variable (s : Settings) (traces : Bool) (st : State)

theorem execute_stripped (line : Text) :
    ((s.stripped traces).execute st line).state = (s.execute st line).state ∧
      ((s.stripped traces).execute st line).entries =
        Entry.kept traces (s.execute st line).entries := by
  refine ⟨rfl, ?_⟩
  have warned : ((s.stripped traces).execute st line).warnings = (s.execute st line).warnings := rfl
  have warnings (texts : List Text) :
      (texts.map Entry.warning).filter (Entry.isKept traces) = texts.map .warning := by
    rw [List.filter_map]
    exact congrArg _ (List.filter_eq_self.2 fun _ _ => rfl)
  simp only [Turn.entries, Entry.kept, List.filter_append, warned, warnings]
  congr 1
  cases traces with
  | true => exact (List.filter_eq_self.2 fun e member => by
      obtain ⟨line, -, rfl⟩ := List.mem_map.1 member
      rfl).symm
  | false => exact (List.filter_eq_nil_iff.2 fun e member => by
      obtain ⟨line, -, rfl⟩ := List.mem_map.1 member
      exact Bool.false_ne_true).symm

variable {s st} in
theorem execute_stripped_ok {line : Text} {output : Option Text}
    (ok : (s.execute st line).result = .ok output) :
    ((s.stripped traces).execute st line).result = .ok output := by
  have quiet : (s.stripped traces).deedOf st line = s.deedOf st line := rfl
  obtain ⟨done, tells⟩ := execute_eq_ok_iff.1 ok
  rw [execute_eq_ok_iff, quiet]
  exact ⟨done, fun read traced => tells read (Bool.and_eq_true_iff.1 traced).2⟩

variable {s traces st} in
theorem execute_stripped_error {line : Text} {c : Crash}
    (failed : (s.execute st line).result = .error c)
    (whole : traces = true ∨ c.isUntold = false) :
    ((s.stripped traces).execute st line).result = .error c := by
  rcases whole with rfl | early
  · exact failed
  · have quiet : (s.stripped traces).deedOf st line = s.deedOf st line := rfl
    rw [execute_eq_error_iff, quiet]
    exact .inl (deedOf_eq_error failed early)

theorem announce_stripped (title : Text) :
    (s.stripped traces).announce title = Entry.kept traces (s.announce title) := by
  obtain ⟨zone, wording, vocabulary, overrides, encoding, keepsState, traced⟩ := s
  cases traces <;> cases traced <;> rfl

variable {s traces st} in
theorem advanceBy_stripped {coloured : Bool} {quota : Nat} {items : List Item}
    (whole : traces = true ∨ (s.advanceBy coloured quota st items).breaksOff = false) :
    (s.stripped traces).advanceBy false quota st items =
      (s.advanceBy coloured quota st items).stripped traces := by
  have lines (item : Item) : (s.stripped traces).lineOf item = s.lineOf item := rfl
  fun_induction advanceBy s coloured quota st items with
  | case1 st items => rw [advanceBy]; rfl
  | case2 quota st => rw [advanceBy, announce_stripped]; rfl
  | case3 quota st item rest cause bad => rw [advanceBy, lines, bad]; rfl
  | case4 quota st item rest bad => rw [advanceBy, lines, bad]; rfl
  | case5 quota st item rest line holds turn c failed =>
      obtain ⟨state, entries⟩ := s.execute_stripped traces st line
      have result := execute_stripped_error failed whole
      simp only [advanceBy, lines, holds, turn, state, result, entries]
      rfl
  | case6 quota st item rest line holds turn ok ih =>
      obtain ⟨state, entries⟩ := s.execute_stripped traces st line
      have result := execute_stripped_ok traces ok
      simp only [advanceBy, lines, holds, turn, state, result, entries] at ih ⊢
      rw [ih whole, Stretch.stripped_preceded]
  | case7 quota st item rest line holds turn output ok ih =>
      obtain ⟨state, entries⟩ := s.execute_stripped traces st line
      have result := execute_stripped_ok traces ok
      simp only [advanceBy, lines, holds, turn, state, result, entries] at ih ⊢
      rw [ih whole, Stretch.stripped_preceded, Entry.kept_append]
      rfl

variable {s traces st} in
theorem executeAll_stripped {lines : List Text}
    (whole : traces = true ∨ ∀ c, (s.executeAll st lines).2.2 = .error c → c.isUntold = false) :
    (s.stripped traces).executeAll st lines =
      ((s.executeAll st lines).1, Entry.kept traces (s.executeAll st lines).2.1,
        (s.executeAll st lines).2.2) := by
  induction lines generalizing st with
  | nil => rfl
  | cons line rest ih =>
      obtain ⟨state, entries⟩ := s.execute_stripped traces st line
      simp only [executeAll] at whole ⊢
      cases answered : (s.execute st line).result with
      | error c =>
          simp only [answered] at whole
          have result := execute_stripped_error answered (whole.imp_right fun early => early c rfl)
          simp only [state, result, entries]
      | ok output =>
          simp only [answered] at whole
          have result := execute_stripped_ok traces answered
          simp only [state, result, entries]
          rw [ih]
          · simp only [Entry.kept_append]
          · refine whole.imp_right fun early c failed => early c ?_
            rw [failed]
            rfl

end Settings

namespace Feed

variable {s : Settings} {traces coloured : Bool} {quota : Nat} {st : State}

theorem begin_stripped {items : List Item} {source : Option Text}
    (whole : traces = true ∨ (begin s coloured quota st items source).breaksOff = false) :
    begin (s.stripped traces) false quota st items source =
      (begin s coloured quota st items source).stripped traces := by
  simp only [begin, s.announce_stripped, Stretch.stripped, Entry.kept_append]
  rw [show (s.stripped traces).opening st source = s.opening st source from rfl,
    Settings.advanceBy_stripped whole]
  rfl

theorem run_stripped {feed : Feed}
    (whole : traces = true ∨ (feed.run s coloured quota st).breaksOff = false) :
    feed.run (s.stripped traces) false quota st =
      (feed.run s coloured quota st).stripped traces := by
  cases feed with
  | spent => rfl
  | running rest => exact Settings.advanceBy_stripped whole
  | waiting stream =>
      cases stream with
      | given input source => exact begin_stripped whole
      | file name content =>
          cases content with
          | ok content => exact begin_stripped whole
          | error e =>
              simp only [run, Stretch.stripped, unopened]
              cases e.text? name <;> rfl

theorem after_stripped (x : Stretch) : after (x.stripped traces) = after x := by
  obtain ⟨state, log, rest, taken, ending⟩ := x
  cases ending with
  | stopped why => cases why <;> rfl
  | _ => rfl

theorem resume_stripped {feed : Feed}
    (whole : traces = true ∨ (feed.resume s coloured quota st).1.breaksOff = false) :
    feed.resume (s.stripped traces) false quota st =
      ((feed.resume s coloured quota st).1.stripped traces,
        (feed.resume s coloured quota st).2) := by
  by_cases none_asked : quota = 0
  · subst none_asked
    rfl
  · rw [resume_of_ne_zero _ _ st feed none_asked] at whole ⊢
    rw [resume_of_ne_zero _ _ st feed none_asked, run_stripped whole, after_stripped]

end Feed

theorem Settings.process_stripped {s : Settings} {traces coloured : Bool} {st : State}
    {stream : Stream}
    (whole : traces = true ∨ (s.process coloured st stream).breaksOff = false) :
    (s.stripped traces).process false st stream =
      (s.process coloured st stream).stripped traces :=
  Feed.run_stripped whole

def Vehicle.stripped (traces : Bool) (v : Vehicle) : Vehicle :=
  { v with settings := v.settings.stripped traces }

def Plan.stripped (traces : Bool) (p : Plan) : Plan :=
  { p with traced := traces && p.traced, coloured := false }

theorem Settings.checked_stripped (traces : Bool) (s : Settings) :
    (s.stripped traces).checked = s.checked.map (Settings.stripped traces) := by
  simp only [checked, show (s.stripped traces).unhandled = s.unhandled from rfl]
  split <;> rfl

theorem Plan.settings_stripped (traces : Bool) (p : Plan) (zone : Zone) :
    (p.stripped traces).settings zone = (p.settings zone).stripped traces := rfl

def Request.stripped (traces : Bool) : Request → Request
  | .make plan => .make (plan.stripped traces)
  | .colour _ => .colour false
  | r => r

def Answer.stripped (traces : Bool) : Answer → Answer
  | .stretch x taken => .stretch (x.stripped traces) taken
  | a => a

def Reply.stripped (traces : Bool) (r : Reply) : Reply :=
  ⟨r.answer.stripped traces, Entry.kept traces r.log⟩

namespace Fleet

def stripped (traces : Bool) (f : Fleet) : Fleet :=
  { f with coloured := false, vehicles := f.vehicles.map (Vehicle.stripped traces) }

variable (traces : Bool) (f : Fleet)

theorem stripped_vehicles (i : Nat) :
    (f.stripped traces).vehicles[i]? = f.vehicles[i]?.map (Vehicle.stripped traces) :=
  List.getElem?_map ..

theorem setState_stripped (i : Nat) (st : State) :
    (f.stripped traces).setState i st = (f.setState i st).stripped traces := by
  have vehicles : (f.vehicles.map (Vehicle.stripped traces)).modify i
        (fun v => { v with state := st }) =
      (f.vehicles.modify i fun v => { v with state := st }).map (Vehicle.stripped traces) := by
    apply List.ext_getElem?
    intro j
    rw [List.getElem?_modify, List.getElem?_map, List.getElem?_map, List.getElem?_modify]
    cases f.vehicles[j]? with
    | none => rfl
    | some v => by_cases h : i = j <;> simp [h, Vehicle.stripped]
  simp only [setState, stripped, vehicles]

theorem make_stripped (p : Plan) :
    (f.stripped traces).make (p.stripped traces) =
      ((f.make p).1.stripped traces, (f.make p).2) := by
  simp only [make, show (p.stripped traces).size = p.size from rfl]
  cases p.size.zone with
  | error e => rfl
  | ok zone =>
      simp only [p.settings_stripped, Settings.checked_stripped]
      cases (p.settings zone).checked with
      | error e => rfl
      | ok settings =>
          simp only [Except.map, stripped, List.map_append]
          rfl

variable {traces f} in
theorem carryOut_stripped {i : Nat} {v : Vehicle} {errand : Errand}
    (whole : traces = true ∨ (f.carryOut i v errand).2.answer.breaksOff = false) :
    (f.stripped traces).carryOut i (v.stripped traces) errand =
      ((f.carryOut i v errand).1.stripped traces, (f.carryOut i v errand).2.stripped traces) := by
  have settings : (v.stripped traces).settings = v.settings.stripped traces := rfl
  have state : (v.stripped traces).state = v.state := rfl
  cases errand with
  | execute line =>
      obtain ⟨after, entries⟩ := v.settings.execute_stripped traces v.state line
      have result : ((v.settings.stripped traces).execute v.state line).result =
          (v.settings.execute v.state line).result := by
        cases answered : (v.settings.execute v.state line).result with
        | ok output => exact Settings.execute_stripped_ok traces answered
        | error c =>
            simp only [carryOut, answered, answerOf, Answer.breaksOff] at whole
            exact Settings.execute_stripped_error answered whole
      simp only [carryOut, settings, state, after, result, entries, setState_stripped,
        Reply.stripped]
      cases (v.settings.execute v.state line).result <;> rfl
  | executeAll lines =>
      have same : (v.settings.stripped traces).executeAll v.state lines = _ :=
        Settings.executeAll_stripped (whole.imp_right fun early c failed => by
          simpa only [carryOut, failed, Answer.breaksOff] using early)
      simp only [carryOut, settings, state, same, setState_stripped, Reply.stripped]
      cases (v.settings.executeAll v.state lines).2.2 <;> rfl
  | process stream =>
      simp only [carryOut, settings, state, show (f.stripped traces).coloured = false from rfl,
        Settings.process_stripped whole, Reply.stripped, Answer.stripped]
      rw [← setState_stripped]
      rfl
  | start stream => rfl
  | report =>
      have same : (v.settings.stripped traces).report v.state = v.settings.report v.state := rfl
      simp only [carryOut, settings, state, same, Reply.stripped]
      cases v.settings.report v.state <;> rfl
  | reset => simp only [carryOut, state, setState_stripped]; rfl
  | dig cell => simp only [carryOut, state, setState_stripped]; rfl

variable {traces f} in
theorem next_stripped {i : Nat} {run : Run} {v : Vehicle} {quota : Nat}
    (whole : traces = true ∨ (f.next i run v quota).2.answer.breaksOff = false) :
    (f.stripped traces).next i run (v.stripped traces) quota =
      ((f.next i run v quota).1.stripped traces, (f.next i run v quota).2.stripped traces) := by
  simp only [next, show (v.stripped traces).settings = v.settings.stripped traces from rfl,
    show (v.stripped traces).state = v.state from rfl,
    show (f.stripped traces).coloured = false from rfl,
    Feed.resume_stripped whole, Reply.stripped, Answer.stripped]
  rw [show ∀ x : Stretch, (x.stripped traces).state = x.state from fun _ => rfl, setState_stripped]
  rfl

variable {traces f} in
theorem serve_stripped {r : Request}
    (whole : traces = true ∨ (f.serve r).2.answer.breaksOff = false) :
    (f.stripped traces).serve (r.stripped traces) =
      ((f.serve r).1.stripped traces, (f.serve r).2.stripped traces) := by
  cases r with
  | make plan =>
      simp only [Request.stripped, serve, make_stripped, Reply.stripped]
      have answer : (f.make plan).2.stripped traces = (f.make plan).2 := by
        simp only [make]
        split
        · rfl
        · split <;> rfl
      rw [answer]
      rfl
  | colour on => rfl
  | send i errand =>
      simp only [Request.stripped, serve, stripped_vehicles] at whole ⊢
      cases hv : f.vehicles[i]? with
      | none => rfl
      | some v =>
          simp only [hv] at whole
          exact carryOut_stripped whole
  | next i quota =>
      simp only [Request.stripped, serve, stripped_vehicles,
        show (f.stripped traces).runs = f.runs from rfl] at whole ⊢
      cases hr : f.runs[i]? with
      | none => rfl
      | some run =>
          simp only [hr] at whole
          dsimp only
          cases hv : f.vehicles[run.vehicle]? with
          | none => rfl
          | some v =>
              simp only [hv] at whole
              exact next_stripped whole
  | close i =>
      simp only [Request.stripped, serve, show (f.stripped traces).runs = f.runs from rfl]
      cases f.runs[i]? <;> rfl

def atStep (requests : List Request) (n : Nat) : Fleet := f.serveAll (requests.take n)

def replyAt (requests : List Request) (n : Nat) : Option Reply :=
  requests[n]?.map fun r => ((f.atStep requests n).serve r).2

theorem atStep_succ {requests : List Request} {n : Nat} {r : Request}
    (hr : requests[n]? = some r) :
    f.atStep requests (n + 1) = ((f.atStep requests n).serve r).1 := by
  rw [atStep, List.take_add_one, hr, serveAll_append]
  rfl

theorem atStep_succ_of_none {requests : List Request} {n : Nat} (hr : requests[n]? = none) :
    f.atStep requests (n + 1) = f.atStep requests n := by
  rw [atStep, List.take_add_one, hr, Option.toList_none, List.append_nil]
  rfl

/-- No reply up to request `n` was broken off by a trace. -/
def UnbrokenTo (requests : List Request) (n : Nat) : Prop :=
  ∀ m ≤ n, ∀ x, f.replyAt requests m = some x → x.answer.breaksOff = false

variable {f} in
theorem UnbrokenTo.mono {requests : List Request} {m n : Nat} (whole : f.UnbrokenTo requests n)
    (le : m ≤ n) : f.UnbrokenTo requests m :=
  fun k below => whole k (Nat.le_trans below le)

variable {traces f} in
theorem serve_atStep_stripped {requests : List Request} {n : Nat} {r : Request}
    (whole : traces = true ∨ f.UnbrokenTo requests n) (hr : requests[n]? = some r) :
    ((f.atStep requests n).stripped traces).serve (r.stripped traces) =
      (((f.atStep requests n).serve r).1.stripped traces,
        ((f.atStep requests n).serve r).2.stripped traces) :=
  serve_stripped (whole.imp_right fun unbroken => unbroken n le_rfl _ (by rw [replyAt, hr]; rfl))

variable {traces f} in
theorem atStep_stripped {requests : List Request} {n : Nat}
    (whole : traces = true ∨ f.UnbrokenTo requests n) :
    (f.stripped traces).atStep (requests.map (Request.stripped traces)) n =
      (f.atStep requests n).stripped traces := by
  induction n with
  | zero => rfl
  | succ n ih =>
      have before : traces = true ∨ f.UnbrokenTo requests n :=
        whole.imp_right fun unbroken => unbroken.mono (Nat.le_succ n)
      cases hr : requests[n]? with
      | none =>
          rw [atStep_succ_of_none _ hr, atStep_succ_of_none _ (by simp [hr]), ih before]
      | some r =>
          have there : (requests.map (Request.stripped traces))[n]? = some (r.stripped traces) := by
            simp [hr]
          rw [atStep_succ _ hr, atStep_succ _ there, ih before, serve_atStep_stripped before hr]

variable {traces f} in
theorem replyAt_stripped {requests : List Request} {n : Nat}
    (whole : traces = true ∨ f.UnbrokenTo requests n) :
    (f.stripped traces).replyAt (requests.map (Request.stripped traces)) n =
      (f.replyAt requests n).map (Reply.stripped traces) := by
  simp only [replyAt, atStep_stripped whole, List.getElem?_map]
  cases hr : requests[n]? with
  | none => rfl
  | some r => simp only [Option.map_some, serve_atStep_stripped whole hr]

variable {traces}

/-- Sessions that are the same once stripped are answered the same, once stripped, as long as no
trace that is dropped breaks off in either. -/
theorem session_stripped {requests others : List Request}
    (same : requests.map (Request.stripped traces) = others.map (Request.stripped traces)) {n : Nat}
    (whole : traces = true ∨ f.UnbrokenTo requests n ∧ f.UnbrokenTo others n) :
    (f.atStep requests n).stripped traces = (f.atStep others n).stripped traces ∧
      (f.replyAt requests n).map (Reply.stripped traces) =
        (f.replyAt others n).map (Reply.stripped traces) := by
  have here := whole.imp_right And.left
  have there := whole.imp_right And.right
  rw [← atStep_stripped here, ← atStep_stripped there, ← replyAt_stripped here,
    ← replyAt_stripped there, same]
  exact ⟨rfl, rfl⟩

end Fleet

end Rover
