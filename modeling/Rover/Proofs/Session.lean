import Rover.Proofs.Journal
import Rover.Proofs.Soundness

namespace Rover

open State

namespace Settings

variable {s : Settings} {st : State}

inductive Reaches (s : Settings) : State → Prop
  | initial : Reaches s State.initial
  | happen {st : State} (e : Event) : Reaches s st → Reaches s (s.happen st e)

theorem Reaches.replay (h : s.Reaches st) (events : List Event) :
    s.Reaches (s.replay st events) := by
  induction events generalizing st with
  | nil => exact h
  | cons e rest ih => exact ih (.happen e h)

theorem happen_sound (e : Event) (h : Sound s.zone st) : Sound s.zone (s.happen st e) := by
  cases e with
  | line text => exact execute_sound text h
  | reset => exact Sound.reset s.zone st
  | opening source => exact opening_sound source h

theorem Reaches.sound (h : s.Reaches st) : Sound s.zone st := by
  induction h with
  | initial => exact Sound.initial s.zone
  | happen e _ ih => exact happen_sound e ih

theorem happen_keeps (s : Settings) (st : State) (e : Event) :
    Keeps st (s.happen st e) ∨ e = .reset ∨
      s.keepsState = false ∧ ∃ source, e = .opening source := by
  cases e with
  | line text => exact .inl (execute_keeps text)
  | reset => exact .inr (.inl rfl)
  | opening source =>
      cases h : s.keepsState with
      | true => exact .inl (opening_keeps source h)
      | false => exact .inr (.inr ⟨rfl, source, rfl⟩)

end Settings

namespace Feed

theorem waiting_of_opens? {feed : Feed} {source : Option Text} (h : feed.opens? = some source) :
    ∃ stream, feed = .waiting stream := by
  cases feed with
  | waiting stream => exact ⟨stream, rfl⟩
  | running rest => cases h
  | spent => cases h

theorem opening_first {s : Settings} {coloured : Bool} {quota : Nat} {st : State} {feed : Feed}
    {pre post : List Event} {source : Option Text}
    (h : feed.events s coloured quota st = pre ++ .opening source :: post) :
    pre = [] ∧ ∃ stream, feed = .waiting stream := by
  have noLine (lines : List Text) (pre : List Event) :
      lines.map Event.line ≠ pre ++ .opening source :: post := by
    intro eq
    have member : Event.opening source ∈ lines.map Event.line := by rw [eq]; simp
    obtain ⟨line, -, impossible⟩ := List.mem_map.1 member
    cases impossible
  unfold events at h
  cases opens : feed.opens? with
  | none =>
      rw [opens] at h
      exact absurd h (noLine _ pre)
  | some name =>
      rw [opens] at h
      refine ⟨?_, waiting_of_opens? opens⟩
      cases pre with
      | nil => rfl
      | cons e rest =>
          injection h with _ tail
          exact absurd tail (noLine _ rest)

theorem reset_not_mem_events {s : Settings} {coloured : Bool} {quota : Nat} {st : State}
    {feed : Feed} : Event.reset ∉ feed.events s coloured quota st := by
  unfold events
  cases feed.opens? <;> simp

end Feed

namespace Fleet

inductive Reachable : Fleet → Prop
  | empty : Reachable Fleet.empty
  | serve {f : Fleet} (r : Request) : Reachable f → r.IsFair → Reachable (f.serve r).1

def Starts (f : Fleet) (i : Nat) : Request → Prop
  | .send j (.process _) => j = i
  | .next k _ => ∃ run stream, f.runs[k]? = some run ∧ run.vehicle = i ∧ run.feed = .waiting stream
  | _ => False

theorem reset_of_mem_events {f : Fleet} {i : Nat} {v : Vehicle} {r : Request}
    (h : Event.reset ∈ f.events i v r) : r = .send i .reset := by
  cases r with
  | make plan => simp [events] at h
  | colour on => simp [events] at h
  | close k => simp [events] at h
  | next k quota =>
      simp only [events] at h
      split at h
      · simp at h
      · split at h
        · exact absurd h Feed.reset_not_mem_events
        · simp at h
  | send j errand =>
      simp only [events] at h
      split at h
      · subst j
        cases errand with
        | reset => rfl
        | process stream => exact absurd h Feed.reset_not_mem_events
        | _ => simp [Vehicle.events] at h
      · simp at h

theorem starts_of_opening {f : Fleet} {i : Nat} {v : Vehicle} {r : Request} {pre post : List Event}
    {source : Option Text} (h : f.events i v r = pre ++ .opening source :: post) :
    pre = [] ∧ f.Starts i r := by
  have member : Event.opening source ∈ f.events i v r := by rw [h]; simp
  cases r with
  | make plan => simp [events] at member
  | colour on => simp [events] at member
  | close k => simp [events] at member
  | next k quota =>
      simp only [events] at h
      split at h
      · simp at h
      · rename_i run at_k
        split at h
        · rename_i driven
          obtain ⟨first, stream, waiting⟩ := Feed.opening_first h
          exact ⟨first, run, stream, at_k, driven.1, waiting⟩
        · simp at h
  | send j errand =>
      simp only [events] at h member
      split at h
      · rename_i same
        cases errand with
        | process stream => exact ⟨(Feed.opening_first h).1, same⟩
        | _ => simp [same, Vehicle.events] at member
      · simp at h

theorem new_vehicle {f : Fleet} {i : Nat} {v : Vehicle} {r : Request}
    (missing : f.vehicles[i]? = none) (hv : (f.serve r).1.vehicles[i]? = some v) :
    v.state = State.initial := by
  have kept (j : Nat) (st : State) : (f.setState j st).vehicles[i]? = none := by
    simp [setState_vehicles, missing]
  cases r with
  | make plan =>
      simp only [serve, make] at hv
      split at hv
      · simp [missing] at hv
      · split at hv
        · simp [missing] at hv
        · rw [List.getElem?_append_right (List.getElem?_eq_none_iff.1 missing)] at hv
          obtain rfl := List.mem_singleton.1 (List.mem_of_getElem? hv)
          rfl
  | colour on => simp [serve, missing] at hv
  | send j errand =>
      simp only [serve] at hv
      split at hv
      · cases errand <;> simp [carryOut, kept, missing] at hv
      · simp [missing] at hv
  | next k quota =>
      simp only [serve] at hv
      split at hv
      · simp [missing] at hv
      · split at hv
        · simp [next, setRun, kept] at hv
        · simp [missing] at hv
  | close k =>
      simp only [serve] at hv
      split at hv <;> simp [setRun, missing] at hv

theorem Reachable.reaches {f : Fleet} (h : f.Reachable) {i : Nat} {v : Vehicle}
    (hv : f.vehicles[i]? = some v) : v.settings.Reaches v.state := by
  induction h generalizing v with
  | empty => simp [Fleet.empty] at hv
  | @serve f r _ fair ih =>
      cases old : f.vehicles[i]? with
      | none =>
          rw [new_vehicle old hv]
          exact .initial
      | some w =>
          rw [f.serve_vehicles i w old r fair] at hv
          obtain rfl := Option.some.inj hv
          exact (ih old).replay _

/-- Every vehicle of a session is sound, also between the lines of a request; and a robot is taken
off and pits are lost only at a reset or where a run begins that does not keep the state. -/
theorem session_sound {f : Fleet} (h : f.Reachable) {i : Nat} {v : Vehicle}
    (hv : f.vehicles[i]? = some v) :
    Sound v.settings.zone v.state ∧
    ∀ r : Request, r.IsFair →
      (f.serve r).1.vehicles[i]? =
        some { v with state := v.settings.replay v.state (f.events i v r) } ∧
      ∀ pre e post, f.events i v r = pre ++ e :: post →
        Sound v.settings.zone (v.settings.replay v.state (pre ++ [e])) ∧
        (Keeps (v.settings.replay v.state pre) (v.settings.replay v.state (pre ++ [e])) ∨
          e = .reset ∧ r = .send i .reset ∨
          v.settings.keepsState = false ∧ pre = [] ∧ f.Starts i r ∧
            ∃ source, e = .opening source) := by
  have reached := h.reaches hv
  refine ⟨reached.sound, fun r fair => ⟨f.serve_vehicles i v hv r fair, fun pre e post split => ?_⟩⟩
  refine ⟨(reached.replay _).sound, ?_⟩
  rw [Settings.replay_append]
  rcases Settings.happen_keeps v.settings (v.settings.replay v.state pre) e with
    keeps | rfl | ⟨fresh, source, rfl⟩
  · exact .inl keeps
  · exact .inr (.inl ⟨rfl, reset_of_mem_events (by rw [split]; simp)⟩)
  · obtain ⟨first, starts⟩ := starts_of_opening split
    exact .inr (.inr ⟨fresh, first, starts, source, rfl⟩)

theorem session_sound_reopened :
    ∃ (f : Fleet) (v : Vehicle), f.Reachable ∧ f.vehicles[0]? = some v ∧
      v.state.position = some ⟨0, 0⟩ ∧ ⟨0, 1⟩ ∈ v.state.pits ∧ Sound v.settings.zone v.state ∧
      (Request.next 0 1).IsFair ∧
      f.events 0 v (.next 0 1) =
        [.opening none] ++ .line "DEPLOY 2,2,EAST".toList :: [.line "REPORT".toList] ∧
      Sound v.settings.zone
        (v.settings.replay v.state ([.opening none] ++ [.line "DEPLOY 2,2,EAST".toList])) ∧
      Keeps (v.settings.replay v.state [.opening none])
        (v.settings.replay v.state ([.opening none] ++ [.line "DEPLOY 2,2,EAST".toList])) := by
  let plan : Plan :=
    ⟨.whole 3, Wording.standard, Vocabulary.standard, Table.empty, .utf8, false, false, false⟩
  let dug : Request :=
    .send 0 (.executeAll ["DEPLOY 0,0,NORTH".toList, "PIT 0,1".toList, "PIT 9,9".toList])
  let again : Request :=
    .send 0 (.start (.given
      (.items [.text "DEPLOY 2,2,EAST".toList, .text "REPORT".toList]) none))
  let f : Fleet := (((Fleet.empty.serve (.make plan)).1.serve dug).1.serve again).1
  let v : Vehicle :=
    ⟨{ Settings.standard with zone := ⟨3, by decide⟩ },
      ⟨true, some ⟨0, 0⟩, some .north, (Pits.empty.insert ⟨0, 1⟩).insert ⟨9, 9⟩, true, 3, none⟩⟩
  have reachable : f.Reachable := .serve _ (.serve _ (.serve _ .empty trivial) trivial) trivial
  have hv : f.vehicles[0]? = some v := by with_unfolding_all rfl
  have happened : f.events 0 v (.next 0 1) =
      [.opening none] ++ .line "DEPLOY 2,2,EAST".toList :: [.line "REPORT".toList] := by
    decide +kernel
  obtain ⟨sound, serves⟩ := session_sound reachable hv
  obtain ⟨after, keeps | ⟨impossible, -⟩ | ⟨-, impossible, -⟩⟩ :=
    (serves (.next 0 1) trivial).2 _ _ _ happened
  · exact ⟨f, v, reachable, hv, rfl, by decide +kernel, sound, trivial, happened, after, keeps⟩
  · cases impossible
  · cases impossible

end Fleet

end Rover
