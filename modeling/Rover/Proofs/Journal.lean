import Rover.Fleet

namespace Rover

inductive Event where
  | line (text : Text)
  | reset
  | opening (source : Option Text)
  deriving DecidableEq, Repr

namespace Settings

variable (s : Settings)

def happen (st : State) : Event → State
  | .line text => (s.execute st text).state
  | .reset => st.reset
  | .opening source => s.opening st source

def replay (st : State) (events : List Event) : State := events.foldl s.happen st

@[simp] theorem replay_nil (st : State) : s.replay st [] = st := rfl

@[simp] theorem replay_cons (st : State) (e : Event) (events : List Event) :
    s.replay st (e :: events) = s.replay (s.happen st e) events := rfl

theorem replay_append (st : State) (before after : List Event) :
    s.replay st (before ++ after) = s.replay (s.replay st before) after :=
  List.foldl_append

def after (st : State) (lines : List Text) : State := s.replay st (lines.map .line)

@[simp] theorem after_nil (st : State) : s.after st [] = st := rfl

@[simp] theorem after_cons (st : State) (line : Text) (lines : List Text) :
    s.after st (line :: lines) = s.after (s.execute st line).state lines := rfl

theorem after_append (st : State) (earlier later : List Text) :
    s.after st (earlier ++ later) = s.after (s.after st earlier) later := by
  rw [after, List.map_append, replay_append]
  rfl

def linesOf (items : List Item) : List Text := items.filterMap fun item => (s.lineOf item).toOption

theorem linesOf_cons_ok {item : Item} {line : Text} (h : s.lineOf item = .ok line)
    (items : List Item) : s.linesOf (item :: items) = line :: s.linesOf items := by
  simp [linesOf, h, Except.toOption]

theorem linesOf_cons_error {item : Item} {cause : Option Text} (h : s.lineOf item = .error cause)
    (items : List Item) : s.linesOf (item :: items) = s.linesOf items := by
  simp [linesOf, h, Except.toOption]

theorem linesOf_text (lines : List Text) : s.linesOf (lines.map .text) = lines := by
  induction lines with
  | nil => rfl
  | cons line rest ih => rw [List.map_cons, s.linesOf_cons_ok rfl, ih]

theorem advanceBy_state (coloured : Bool) (quota : Nat) (st : State) (items : List Item) :
    (s.advanceBy coloured quota st items).state =
      s.after st (s.linesOf (items.take (s.advanceBy coloured quota st items).taken)) := by
  fun_induction advanceBy s coloured quota st items with
  | case1 st items => rfl
  | case2 st quota => rfl
  | case3 st quota item rest cause h =>
      rw [List.take_succ_cons, List.take_zero, s.linesOf_cons_error h]
      rfl
  | case4 st quota item rest h =>
      rw [List.take_succ_cons, List.take_zero, s.linesOf_cons_error h]
      rfl
  | case5 st quota item rest line h turn c hc =>
      rw [List.take_succ_cons, List.take_zero, s.linesOf_cons_ok h]
      rfl
  | case6 st quota item rest line h turn hr ih =>
      simp only [Stretch.preceded] at ih ⊢
      rw [List.take_succ_cons, s.linesOf_cons_ok h, after_cons]
      exact ih
  | case7 st quota item rest line h turn output hr ih =>
      simp only [Stretch.preceded] at ih ⊢
      rw [List.take_succ_cons, s.linesOf_cons_ok h, after_cons]
      exact ih

def executed : State → List Text → List Text
  | _, [] => []
  | st, line :: rest =>
      line :: match (s.execute st line).result with
        | .error _ => []
        | .ok _ => executed (s.execute st line).state rest

theorem executeAll_state (st : State) (lines : List Text) :
    (s.executeAll st lines).1 = s.after st (s.executed st lines) := by
  induction lines generalizing st with
  | nil => rfl
  | cons line rest ih =>
      simp only [executeAll, executed]
      cases h : (s.execute st line).result with
      | error c => rfl
      | ok output => exact ih _

end Settings

namespace Feed

def opens? : Feed → Option (Option Text)
  | .waiting (.given _ source) => some source
  | .waiting (.file name (.ok _)) => some (some name)
  | _ => none

def items (s : Settings) : Feed → List Item
  | .waiting (.given input _) => input.toItems
  | .waiting (.file _ (.ok content)) => s.encoding.fileItems content
  | .running rest => rest
  | _ => []

theorem run_of_opens? (s : Settings) (coloured : Bool) (quota : Nat) (st : State) {stream : Stream}
    {source : Option Text} (opens : (Feed.waiting stream).opens? = some source) :
    (Feed.waiting stream).run s coloured quota st =
      begin s coloured quota st ((Feed.waiting stream).items s) source := by
  cases stream with
  | given input name =>
      obtain rfl := Option.some.inj opens
      rfl
  | file name content =>
      cases content with
      | ok content =>
          obtain rfl := Option.some.inj opens
          rfl
      | error e => cases opens

def events (s : Settings) (coloured : Bool) (quota : Nat) (st : State) (feed : Feed) : List Event :=
  (feed.opens?.map .opening).toList
    ++ (s.linesOf ((feed.items s).take (feed.run s coloured quota st).taken)).map .line

theorem run_state (s : Settings) (coloured : Bool) (quota : Nat) (st : State) (feed : Feed) :
    (feed.run s coloured quota st).state = s.replay st (feed.events s coloured quota st) := by
  cases feed with
  | spent => rfl
  | running rest => exact s.advanceBy_state coloured quota st rest
  | waiting stream =>
      cases stream with
      | given input source => exact s.advanceBy_state coloured quota _ _
      | file name content =>
          cases content with
          | ok content => exact s.advanceBy_state coloured quota _ _
          | error e => rfl

theorem resume_state (s : Settings) (coloured : Bool) (quota : Nat) (st : State) (feed : Feed) :
    (feed.resume s coloured quota st).1.state =
      s.replay st (if quota = 0 then [] else feed.events s coloured quota st) := by
  unfold resume
  split
  · rfl
  · exact run_state s coloured quota st feed

end Feed

def Vehicle.events (v : Vehicle) (coloured : Bool) : Errand → List Event
  | .execute line => [.line line]
  | .executeAll lines => (v.settings.executed v.state lines).map .line
  | .process stream =>
      Feed.events v.settings coloured (v.settings.enough stream) v.state (.waiting stream)
  | .reset => [.reset]
  | _ => []

/-- No request of a session puts a pit on a board from outside. -/
def Request.IsFair : Request → Prop
  | .send _ (.dig _) => False
  | _ => True

namespace Fleet

def events (f : Fleet) (i : Nat) (v : Vehicle) : Request → List Event
  | .send j errand => if j = i then v.events f.coloured errand else []
  | .next k quota =>
      match f.runs[k]? with
      | none => []
      | some run =>
          if run.vehicle = i ∧ quota ≠ 0 then
            run.feed.events v.settings f.coloured quota v.state
          else []
  | _ => []

theorem setState_vehicles (f : Fleet) (i j : Nat) (st : State) :
    (f.setState j st).vehicles[i]? =
      if j = i then f.vehicles[i]?.map fun v => { v with state := st } else f.vehicles[i]? := by
  simp only [setState, List.getElem?_modify]
  split <;> simp

theorem make_vehicles (f : Fleet) (p : Plan) {i : Nat} {v : Vehicle}
    (hv : f.vehicles[i]? = some v) : (f.make p).1.vehicles[i]? = some v := by
  obtain ⟨hi, -⟩ := List.getElem?_eq_some_iff.1 hv
  unfold make
  split
  · exact hv
  · split
    · exact hv
    · rw [List.getElem?_append_left hi]
      exact hv

theorem carryOut_vehicles (f : Fleet) (i : Nat) (v : Vehicle) (hv : f.vehicles[i]? = some v)
    (errand : Errand) (fair : (Request.send i errand).IsFair) :
    (f.carryOut i v errand).1.vehicles[i]? =
      some { v with state := v.settings.replay v.state (v.events f.coloured errand) } := by
  cases errand with
  | execute line => simp [carryOut, setState_vehicles, hv, Vehicle.events, Settings.happen]
  | executeAll lines =>
      simp only [carryOut, setState_vehicles, hv, if_true, Option.map_some, Vehicle.events,
        Settings.executeAll_state]
      rfl
  | process stream =>
      simp only [carryOut, setState_vehicles, hv, if_true, Option.map_some, Vehicle.events,
        Settings.process, Feed.run_state]
  | start stream => exact hv
  | report => exact hv
  | reset => simp [carryOut, setState_vehicles, hv, Vehicle.events, Settings.happen]
  | dig cell => exact fair.elim

theorem carryOut_others (f : Fleet) {i j : Nat} (ne : j ≠ i) (v : Vehicle) (errand : Errand) :
    (f.carryOut j v errand).1.vehicles[i]? = f.vehicles[i]? := by
  cases errand <;> simp [carryOut, setState_vehicles, ne]

/-- A fair request changes a vehicle by what it makes happen to it, and by nothing else. -/
theorem serve_vehicles (f : Fleet) (i : Nat) (v : Vehicle) (hv : f.vehicles[i]? = some v)
    (r : Request) (fair : r.IsFair) :
    (f.serve r).1.vehicles[i]? =
      some { v with state := v.settings.replay v.state (f.events i v r) } := by
  cases r with
  | make plan => exact f.make_vehicles plan hv
  | colour on => exact hv
  | send j errand =>
      by_cases h : j = i
      · subst h
        simpa [serve, hv, events] using f.carryOut_vehicles j v hv errand fair
      · simp only [serve, events, h, if_false, Settings.replay_nil]
        cases f.vehicles[j]? with
        | none => exact hv
        | some w => exact (f.carryOut_others h w errand).trans hv
  | next k quota =>
      simp only [serve, events]
      cases f.runs[k]? with
      | none => exact hv
      | some run =>
          by_cases h : run.vehicle = i
          · simp only [h, hv, next, setRun, setState_vehicles, if_true, Option.map_some,
              Feed.resume_state, true_and]
            split <;> simp_all
          · simp only [h, false_and, if_false, Settings.replay_nil]
            cases f.vehicles[run.vehicle]? with
            | none => exact hv
            | some w => simpa [next, setRun, setState_vehicles, h] using hv
  | close k =>
      simp only [serve, events, Settings.replay_nil]
      cases f.runs[k]? with
      | none => exact hv
      | some run => exact hv

end Fleet

end Rover
