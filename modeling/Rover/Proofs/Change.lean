import Mathlib.Tactic.SplitIfs
import Rover.Proofs.ChainHistory
import Rover.Turn

namespace Rover

namespace State

@[simp] theorem pose?_eq_some {st : State} {p : Pose} :
    st.pose? = some p ↔ st.position = some p.cell ∧ st.heading = some p.heading := by
  obtain ⟨cell, heading⟩ := p
  unfold pose?
  cases st.position <;> cases st.heading <;> simp

end State

namespace Settings

/-- What a deed may do to the robot and the pits. All but the first give no output. -/
inductive Change (s : Settings) (st : State) : Deed → Prop
  | none (result : Except Crash (Option Text)) : Change s st ⟨st, result⟩
  | landed {cell : Cell} {heading : Heading} (free : s.zone.verdict st.pits cell = .free) :
      Change s st
        ⟨{ st with activated := true, position := some cell, heading := some heading }, .ok none⟩
  | advanced {pose : Pose} (on : st.activated = true) (here : st.pose? = some pose)
      (free : s.zone.verdict st.pits (pose.cell.ahead pose.heading) = .free) :
      Change s st ⟨{ st with position := some (pose.cell.ahead pose.heading) }, .ok none⟩
  | turned {heading : Heading} (on : st.activated = true) (here : st.heading = some heading)
      (turn : Heading → Heading) :
      Change s st ⟨{ st with heading := some (turn heading) }, .ok none⟩
  | dug {cell : Cell} (on : st.activated = true) (chain : st.chain = true)
      (apart : st.position ≠ some cell) :
      Change s st ⟨{ st with pits := st.pits.insert cell }, .ok none⟩

variable (s : Settings) (st : State)

theorem land_change (cell : Cell) (heading : Heading) : s.Change st (s.land st cell heading) := by
  unfold land
  split
  · exact .landed ‹_›
  · exact .none _

theorem advance_change (on : st.activated = true) : s.Change st (s.advance st) := by
  unfold advance
  split
  · exact .none _
  · split
    · exact .advanced on ‹_› ‹_›
    · exact .none _

theorem face_change (on : st.activated = true) (turn : Heading → Heading) :
    s.Change st (face st turn) := by
  unfold face
  split
  · exact .none _
  · exact .turned on ‹_› turn

theorem dig_change (on : st.activated = true) (cell? : Option Cell) :
    s.Change st (s.dig st cell?) := by
  unfold dig
  split
  · split
    · exact .none _
    · split
      · exact .none _
      · exact .dug on ‹_› ‹_›
  · exact .none _

theorem obeyKeyword_change (on : st.activated = true) (keyword : Text) :
    s.Change st (s.obeyKeyword st keyword) := by
  unfold obeyKeyword
  split_ifs
  · exact s.advance_change st on
  · exact s.face_change st on _
  · exact s.face_change st on _
  · exact .none _
  · exact s.dig_change st on none
  · exact .none _
  · exact .none _

theorem obey_change (c : Command) (heeded : heeds st c = true) : s.Change st (s.obey st c) := by
  cases c with
  | deploy cell heading => exact s.land_change st cell heading
  | pit cell => exact s.dig_change st heeded (some cell)
  | move => exact s.advance_change st heeded
  | left => exact s.face_change st heeded Heading.left
  | right => exact s.face_change st heeded Heading.right
  | report => exact .none _
  | custom keyword arguments => exact s.obeyKeyword_change st heeded keyword

theorem respond_change (c : Command) : s.Change st (s.respond st c) := by
  unfold respond
  split
  · split
    · exact .none _
    · exact s.obey_change st c ‹_›
  · exact .none _

theorem respond_of_heeds (bare : s.overrides = Table.empty) {c : Command}
    (heeded : heeds st c = true) : s.respond st c = s.obey st c := by
  unfold respond
  rw [if_pos heeded, bare]
  rfl

theorem respond_of_deaf {c : Command} (deaf : ¬ heeds st c = true) :
    s.respond st c = ⟨st, .ok none⟩ := by
  unfold respond
  rw [if_neg deaf]

theorem heeds_of_activated {st : State} (on : st.activated = true) (c : Command) :
    heeds st c = true := by
  cases c with
  | deploy cell heading => rfl
  | _ => exact on

theorem Change.chain {s : Settings} {st : State} {deed : Deed} (change : s.Change st deed) :
    deed.state.chain = st.chain := by
  cases change <;> rfl

theorem Change.lineNumber {s : Settings} {st : State} {deed : Deed} (change : s.Change st deed) :
    deed.state.lineNumber = st.lineNumber := by
  cases change <;> rfl

theorem Change.source {s : Settings} {st : State} {deed : Deed} (change : s.Change st deed) :
    deed.state.source = st.source := by
  cases change <;> rfl

def numbered (st : State) : State := { st with lineNumber := st.lineNumber + 1 }

/-- What a line does, but for the word that it gives to the chain. -/
def deedOf (line : Text) : Deed :=
  match s.vocabulary.read line with
  | .error (.mishap m) => ⟨numbered st, .error (.unread m)⟩
  | .error (.fault _) => ⟨numbered st, .ok none⟩
  | .ok c => s.respond (numbered st) c

theorem deedOf_change (line : Text) : s.Change (numbered st) (s.deedOf st line) := by
  unfold deedOf
  split
  · exact .none _
  · exact .none _
  · exact s.respond_change _ _

theorem heed_eq (line : Text) :
    (s.heed (numbered st) (s.vocabulary.read line)).result = (s.deedOf st line).result ∧
      (s.heed (numbered st) (s.vocabulary.read line)).state =
        { (s.deedOf st line).state with
          chain := match (s.deedOf st line).result with
            | .ok _ => Chain.after st.chain (Chain.command? s.vocabulary line)
            | .error _ => st.chain } := by
  unfold deedOf Chain.command? heed
  cases s.vocabulary.read line with
  | error refusal => cases refusal <;> exact ⟨rfl, rfl⟩
  | ok c =>
      have chain : (s.respond (numbered st) c).state.chain = st.chain :=
        (s.respond_change (numbered st) c).chain
      dsimp only
      generalize s.respond (numbered st) c = deed at chain
      obtain ⟨state, result⟩ := deed
      cases result with
      | error crash => exact ⟨rfl, by rw [← chain]⟩
      | ok output => exact ⟨rfl, by rw [← chain]; rfl⟩

theorem heed_result (line : Text) :
    (s.heed (numbered st) (s.vocabulary.read line)).result = (s.deedOf st line).result :=
  (s.heed_eq st line).1

theorem execute_eq (line : Text) :
    (s.execute st line).result = s.tell (s.deedOf st line) (s.vocabulary.read line) ∧
      (s.execute st line).state =
        { (s.deedOf st line).state with
          chain := match (s.deedOf st line).result with
            | .ok _ => Chain.after st.chain (Chain.command? s.vocabulary line)
            | .error _ => st.chain } := by
  obtain ⟨result, state⟩ := s.heed_eq st line
  refine ⟨?_, state⟩
  have summary : (s.heed (numbered st) (s.vocabulary.read line)).state.summary =
      (s.deedOf st line).state.summary := by
    rw [state]
    rfl
  change s.tell (s.heed (numbered st) (s.vocabulary.read line)) (s.vocabulary.read line) = _
  unfold tell
  rw [summary, result]

theorem execute_state (line : Text) :
    ∃ isOpen, (s.execute st line).state = { (s.deedOf st line).state with chain := isOpen } :=
  ⟨_, (s.execute_eq st line).2⟩

theorem execute_state_of_refused {line : Text} {refusal : Refusal}
    (refused : s.vocabulary.read line = .error refusal) :
    ∃ isOpen, (s.execute st line).state = { numbered st with chain := isOpen } := by
  obtain ⟨isOpen, state⟩ := s.execute_state st line
  rw [deedOf, refused] at state
  cases refusal <;> exact ⟨isOpen, state⟩

theorem execute_state_of_read {line : Text} {c : Command}
    (read : s.vocabulary.read line = .ok c) :
    ∃ isOpen, (s.execute st line).state =
      { (s.respond (numbered st) c).state with chain := isOpen } := by
  obtain ⟨isOpen, state⟩ := s.execute_state st line
  rw [deedOf, read] at state
  exact ⟨isOpen, state⟩

end Settings

end Rover
