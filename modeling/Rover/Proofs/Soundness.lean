import Rover.Feed
import Rover.Proofs.Change

namespace Rover

namespace State

/-- The flag, the position and the heading agree; the robot is in the zone and on no pit; without a
robot there are no pits. -/
structure Sound (zone : Zone) (st : State) : Prop where
  position : st.activated = true ↔ st.position ≠ none
  heading : st.activated = true ↔ st.heading ≠ none
  inside : ∀ cell, st.position = some cell → zone.Contains cell ∧ cell ∉ st.pits
  bare : st.activated = false → st.pits = Pits.empty

structure Keeps (before after : State) : Prop where
  activated : before.activated = true → after.activated = true
  pits : ∀ cell ∈ before.pits, cell ∈ after.pits

theorem Keeps.refl (st : State) : Keeps st st := ⟨id, fun _ => id⟩

theorem Sound.initial (zone : Zone) : Sound zone State.initial where
  position := by simp [State.initial]
  heading := by simp [State.initial]
  inside := by simp [State.initial]
  bare _ := rfl

theorem Sound.reset (zone : Zone) (st : State) : Sound zone st.reset := by
  have h := Sound.initial zone
  exact ⟨h.position, h.heading, h.inside, h.bare⟩

theorem Sound.exists_pose {zone : Zone} {st : State} (h : Sound zone st)
    (on : st.activated = true) : ∃ pose, st.pose? = some pose := by
  obtain ⟨cell, hc⟩ := Option.ne_none_iff_exists'.1 (h.position.1 on)
  obtain ⟨heading, hh⟩ := Option.ne_none_iff_exists'.1 (h.heading.1 on)
  exact ⟨⟨cell, heading⟩, pose?_eq_some.2 ⟨hc, hh⟩⟩

theorem Sound.exists_free_pose {zone : Zone} {st : State} (h : Sound zone st)
    (on : st.activated = true) :
    ∃ pose, st.pose? = some pose ∧ zone.verdict st.pits pose.cell = .free := by
  obtain ⟨pose, here⟩ := h.exists_pose on
  obtain ⟨inside, clear⟩ := h.inside pose.cell (pose?_eq_some.1 here).1
  exact ⟨pose, here, Zone.verdict_eq_free_iff.2 ⟨clear, inside⟩⟩

end State

namespace Settings

variable {s : Settings} {st : State}

open State

theorem Change.sound {deed : Deed} (change : s.Change st deed) (h : Sound s.zone st) :
    Sound s.zone deed.state := by
  cases change with
  | none => exact h
  | @landed cell heading free =>
      obtain ⟨clear, inside⟩ := Zone.verdict_eq_free_iff.1 free
      refine ⟨by simp, by simp, fun c hc => ?_, by simp⟩
      obtain rfl : cell = c := Option.some.inj hc
      exact ⟨inside, clear⟩
  | @advanced pose on here free =>
      obtain ⟨clear, inside⟩ := Zone.verdict_eq_free_iff.1 free
      refine ⟨by simp [on], h.heading, fun c hc => ?_, h.bare⟩
      obtain rfl : pose.cell.ahead pose.heading = c := Option.some.inj hc
      exact ⟨inside, clear⟩
  | turned on here turn => exact ⟨h.position, by simp [on], h.inside, h.bare⟩
  | @dug cell on chain apart =>
      refine ⟨h.position, h.heading, fun c hc => ?_, by simp [on]⟩
      obtain ⟨inside, clear⟩ := h.inside c hc
      refine ⟨inside, fun dug => ?_⟩
      rcases Pits.mem_insert.1 dug with rfl | old
      · exact apart hc
      · exact clear old

theorem Change.keeps {deed : Deed} (change : s.Change st deed) : Keeps st deed.state := by
  cases change with
  | none => exact .refl st
  | landed => exact ⟨fun _ => rfl, fun _ => id⟩
  | advanced => exact ⟨id, fun _ => id⟩
  | turned => exact ⟨id, fun _ => id⟩
  | dug => exact ⟨id, fun _ old => Pits.mem_insert.2 (.inr old)⟩

theorem execute_sound (line : Text) (h : Sound s.zone st) :
    Sound s.zone (s.execute st line).state := by
  obtain ⟨isOpen, eq⟩ := s.execute_state st line
  rw [eq]
  have after := (s.deedOf_change st line).sound ⟨h.position, h.heading, h.inside, h.bare⟩
  exact ⟨after.position, after.heading, after.inside, after.bare⟩

theorem execute_keeps (line : Text) : Keeps st (s.execute st line).state := by
  obtain ⟨isOpen, eq⟩ := s.execute_state st line
  rw [eq]
  have keeps := (s.deedOf_change st line).keeps
  exact ⟨keeps.activated, keeps.pits⟩

theorem opening_sound (source : Option Text) (h : Sound s.zone st) :
    Sound s.zone (s.opening st source) := by
  unfold opening
  split
  · exact ⟨h.position, h.heading, h.inside, h.bare⟩
  · have fresh := Sound.reset s.zone st
    exact ⟨fresh.position, fresh.heading, fresh.inside, fresh.bare⟩

theorem opening_keeps (source : Option Text) (keeps : s.keepsState = true) :
    Keeps st (s.opening st source) := by
  simp only [opening, keeps, if_true]
  exact ⟨id, fun _ => id⟩

end Settings

end Rover
