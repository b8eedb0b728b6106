import Rover.Proofs.Lookups
import Rover.Proofs.Stripping

namespace Rover

open State

namespace Settings

variable {s : Settings} {st : State}

theorem execute_unbroken (all : s.TellsAll) (poised : Poised s.zone st) {line : Text} {c : Crash}
    (failed : (s.execute st line).result = .error c) : c.isUntold = false := by
  rw [Crash.isUntold_eq_false_iff]
  rintro why rfl
  obtain ⟨traced, -, -, silent⟩ := execute_untold_iff.1 failed
  have after : Poised s.zone (s.execute st line).state := happen_poised poised (.line line)
  obtain ⟨text, told⟩ := after.isTold (all traced)
  cases told.symm.trans silent

theorem advanceBy_unbroken (all : s.TellsAll) {coloured : Bool} {quota : Nat} {items : List Item}
    (poised : Poised s.zone st) : (s.advanceBy coloured quota st items).breaksOff = false := by
  fun_induction advanceBy s coloured quota st items with
  | case1 st items => rfl
  | case2 quota st => rfl
  | case3 quota st item rest cause bad => rfl
  | case4 quota st item rest bad => rfl
  | case5 quota st item rest line holds turn c failed =>
      exact execute_unbroken all poised failed
  | case6 quota st item rest line holds turn ok ih => exact ih (happen_poised poised (.line line))
  | case7 quota st item rest line holds turn output ok ih =>
      exact ih (happen_poised poised (.line line))

theorem executeAll_unbroken (all : s.TellsAll) (poised : Poised s.zone st) {lines : List Text}
    {c : Crash} (failed : (s.executeAll st lines).2.2 = .error c) : c.isUntold = false := by
  induction lines generalizing st with
  | nil => cases failed
  | cons line rest ih =>
      simp only [executeAll] at failed
      split at failed
      · rename_i other here
        obtain rfl := Except.error.inj failed
        exact execute_unbroken all poised here
      · have after : Poised s.zone (s.execute st line).state := happen_poised poised (.line line)
        apply ih after
        cases later : (s.executeAll (s.execute st line).state rest).2.2 with
        | error other =>
            rw [later] at failed
            exact congrArg _ (Except.error.inj failed)
        | ok outputs =>
            rw [later] at failed
            cases failed

theorem opening_poised (poised : Poised s.zone st) (source : Option Text) :
    Poised s.zone (s.opening st source) := happen_poised poised (.opening source)

theorem run_unbroken (all : s.TellsAll) {coloured : Bool} {quota : Nat}
    (poised : Poised s.zone st) (feed : Feed) :
    (feed.run s coloured quota st).breaksOff = false := by
  have begun (items : List Item) (source : Option Text) :
      (Feed.begin s coloured quota st items source).breaksOff = false :=
    advanceBy_unbroken all (opening_poised poised source)
  cases feed with
  | spent => rfl
  | running rest => exact advanceBy_unbroken all poised
  | waiting stream =>
      cases stream with
      | given input source => exact begun _ source
      | file name content =>
          cases content with
          | ok content => exact begun _ (some name)
          | error e =>
              simp only [Feed.run, Feed.unopened]
              cases e.text? name <;> rfl

end Settings

def Request.made : Request → Option Settings
  | .make plan =>
      match plan.size.zone with
      | .ok zone => (plan.settings zone).checked.toOption
      | .error _ => none
  | _ => none

/-- The request does not make a traced vehicle in a zone with cells that are too long to be
written. -/
def Request.IsNarrow : Request → Prop
  | .make plan => plan.traced = true →
      ∀ zone, plan.size.zone = .ok zone → zone.size ≤ 10 ^ Numeral.maxDigits
  | _ => True

theorem Request.exists_plan_of_made {r : Request} {s : Settings} (made : r.made = some s) :
    ∃ plan zone, r = .make plan ∧ plan.size.zone = .ok zone ∧ s = plan.settings zone := by
  cases r with
  | make plan =>
      simp only [Request.made] at made
      cases size : plan.size.zone with
      | error e =>
          rw [size] at made
          cases made
      | ok zone =>
          refine ⟨plan, zone, rfl, size, ?_⟩
          rw [size] at made
          cases checked : (plan.settings zone).checked with
          | error e =>
              simp only [checked] at made
              cases made
          | ok settings =>
              simp only [checked] at made
              obtain rfl := Option.some.inj made
              exact (Settings.of_checked_eq_ok checked).2
  | _ => cases made

theorem Request.IsNarrow.tellsAll {r : Request} {s : Settings} (narrow : r.IsNarrow)
    (made : r.made = some s) : s.TellsAll := by
  obtain ⟨plan, zone, rfl, size, rfl⟩ := exists_plan_of_made made
  exact fun traced => narrow traced zone size

theorem Request.made_stripped (traces : Bool) (r : Request) :
    (r.stripped traces).made = r.made.map (Settings.stripped traces) := by
  cases r with
  | make plan =>
      simp only [stripped, made, show (plan.stripped traces).size = plan.size from rfl]
      cases plan.size.zone with
      | error e => rfl
      | ok zone =>
          simp only [plan.settings_stripped, Settings.checked_stripped]
          cases (plan.settings zone).checked <;> rfl
  | _ => rfl

namespace Fleet

variable {f : Fleet}

theorem setState_settings (f : Fleet) (i : Nat) (st : State) :
    (f.setState i st).vehicles.map Vehicle.settings = f.vehicles.map Vehicle.settings := by
  apply List.ext_getElem?
  intro j
  rw [List.getElem?_map, List.getElem?_map, setState_vehicles]
  split
  · cases f.vehicles[j]? <;> rfl
  · rfl

theorem serve_settings (f : Fleet) (r : Request) :
    (f.serve r).1.vehicles.map Vehicle.settings =
      f.vehicles.map Vehicle.settings ++ r.made.toList := by
  cases r with
  | make plan =>
      simp only [serve, make, Request.made]
      cases plan.size.zone with
      | error e => simp
      | ok zone =>
          dsimp only
          cases (plan.settings zone).checked with
          | error e => simp [Except.toOption]
          | ok settings => simp [Except.toOption]
  | colour on => simp [serve, Request.made]
  | send i errand =>
      simp only [serve, Request.made, Option.toList_none, List.append_nil]
      cases f.vehicles[i]? with
      | none => rfl
      | some v => cases errand <;> first | rfl | exact setState_settings f i _
  | next k quota =>
      simp only [serve, Request.made, Option.toList_none, List.append_nil]
      cases f.runs[k]? with
      | none => rfl
      | some run =>
          dsimp only
          cases f.vehicles[run.vehicle]? with
          | none => rfl
          | some v => exact setState_settings f run.vehicle _
  | close k =>
      simp only [serve, Request.made, Option.toList_none, List.append_nil]
      cases f.runs[k]? <;> rfl

theorem serveAll_settings (f : Fleet) (requests : List Request) :
    (f.serveAll requests).vehicles.map Vehicle.settings =
      f.vehicles.map Vehicle.settings ++ requests.filterMap Request.made := by
  induction requests generalizing f with
  | nil => simp [serveAll]
  | cons r rest ih =>
      change ((f.serve r).1.serveAll rest).vehicles.map Vehicle.settings = _
      rw [ih, serve_settings, List.append_assoc]
      cases made : r.made <;> simp [made]

structure Clear (f : Fleet) : Prop where
  tellsAll : ∀ v ∈ f.vehicles, v.settings.TellsAll
  poised : ∀ v ∈ f.vehicles, Poised v.settings.zone v.state

theorem Clear.serve_unbroken (clear : f.Clear) (r : Request) :
    (f.serve r).2.answer.breaksOff = false := by
  cases r with
  | make plan =>
      simp only [serve, make]
      split
      · rfl
      · split <;> rfl
  | colour on => rfl
  | send i errand =>
      simp only [serve]
      cases hv : f.vehicles[i]? with
      | none => rfl
      | some v =>
          have member := List.mem_of_getElem? hv
          have all := clear.tellsAll v member
          have poised := clear.poised v member
          cases errand with
          | execute line =>
              simp only [carryOut]
              cases answered : (v.settings.execute v.state line).result with
              | error c => exact Settings.execute_unbroken all poised answered
              | ok output => rfl
          | executeAll lines =>
              simp only [carryOut]
              cases answered : (v.settings.executeAll v.state lines).2.2 with
              | error c => exact Settings.executeAll_unbroken all poised answered
              | ok outputs => rfl
          | process stream => exact Settings.run_unbroken all poised _
          | report =>
              simp only [carryOut]
              cases told : v.settings.report v.state with
              | error c =>
                  refine Crash.isUntold_eq_false_iff.2 fun why same => ?_
                  exact v.settings.report_ne_untold v.state why (same ▸ told)
              | ok output => rfl
          | _ => rfl
  | next k quota =>
      simp only [serve]
      cases f.runs[k]? with
      | none => rfl
      | some run =>
          dsimp only
          cases hv : f.vehicles[run.vehicle]? with
          | none => rfl
          | some v =>
              have member := List.mem_of_getElem? hv
              have whole : (run.feed.run v.settings f.coloured quota v.state).breaksOff = false :=
                Settings.run_unbroken (clear.tellsAll v member) (clear.poised v member) run.feed
              simp only [Fleet.next, Feed.resume, Answer.breaksOff]
              split
              · rfl
              · exact whole
  | close k =>
      simp only [serve]
      cases f.runs[k]? <;> rfl

/-- As long as no traced vehicle is made in a zone with cells that are too long to be written, no
trace breaks off. -/
theorem unbrokenTo_of_narrow {requests : List Request} (narrow : ∀ r ∈ requests, r.IsNarrow)
    (n : Nat) : empty.UnbrokenTo requests n := by
  intro m _ x answered
  obtain ⟨r, -, rfl⟩ := Option.map_eq_some_iff.1 answered
  apply Clear.serve_unbroken
  constructor
  · intro v member
    have listed := List.mem_map_of_mem (f := Vehicle.settings) member
    rw [atStep, serveAll_settings] at listed
    obtain ⟨r, taken, made⟩ := List.mem_filterMap.1 listed
    exact (narrow r (List.mem_of_mem_take taken)).tellsAll made
  · intro v member
    have none_yet : ∀ v ∈ empty.vehicles, Fit v := fun v member => absurd member List.not_mem_nil
    exact (serveAll_fit none_yet _ v member).poised

end Fleet

end Rover
