import Rover.Proofs.Change

namespace Rover

namespace State

/-- The same robot, pits and chain, whatever the line numbers and the sources. -/
structure Alike (a b : State) : Prop where
  activated : a.activated = b.activated
  position : a.position = b.position
  heading : a.heading = b.heading
  pits : a.pits = b.pits
  chain : a.chain = b.chain

theorem Alike.refl (a : State) : Alike a a := ⟨rfl, rfl, rfl, rfl, rfl⟩

theorem Alike.symm {a b : State} (h : Alike a b) : Alike b a :=
  ⟨h.activated.symm, h.position.symm, h.heading.symm, h.pits.symm, h.chain.symm⟩

theorem Alike.trans {a b c : State} (h : Alike a b) (k : Alike b c) : Alike a c :=
  ⟨h.activated.trans k.activated, h.position.trans k.position, h.heading.trans k.heading,
    h.pits.trans k.pits, h.chain.trans k.chain⟩

def relabel (st : State) (n : Nat) (source : Option Text) : State :=
  { st with lineNumber := n, source }

section

variable (st : State) (n : Nat) (source : Option Text)

@[simp] theorem relabel_position : (st.relabel n source).position = st.position := rfl

@[simp] theorem relabel_heading : (st.relabel n source).heading = st.heading := rfl

@[simp] theorem relabel_pits : (st.relabel n source).pits = st.pits := rfl

@[simp] theorem relabel_chain : (st.relabel n source).chain = st.chain := rfl

@[simp] theorem relabel_pose? : (st.relabel n source).pose? = st.pose? := rfl

end

theorem Alike.eq_relabel {a b : State} (h : Alike a b) : b = a.relabel b.lineNumber b.source := by
  obtain ⟨activated, position, heading, pits, chain, n, source⟩ := b
  obtain ⟨rfl, rfl, rfl, rfl, rfl⟩ := h
  rfl

end State

def Deed.relabel (d : Deed) (n : Nat) (source : Option Text) : Deed :=
  ⟨d.state.relabel n source, d.result⟩

namespace Settings

variable (s : Settings) (st : State) (n : Nat) (source : Option Text)

theorem land_relabel (cell : Cell) (heading : Heading) :
    s.land (st.relabel n source) cell heading = (s.land st cell heading).relabel n source := by
  unfold land
  rw [State.relabel_pits]
  cases s.zone.verdict st.pits cell <;> rfl

theorem dig_relabel (cell? : Option Cell) :
    s.dig (st.relabel n source) cell? = (s.dig st cell?).relabel n source := by
  unfold dig
  rw [State.relabel_chain, State.relabel_position]
  split
  · cases cell? with
    | none => rfl
    | some cell =>
        dsimp only
        split <;> rfl
  · rfl

theorem advance_relabel :
    s.advance (st.relabel n source) = (s.advance st).relabel n source := by
  unfold advance
  rw [State.relabel_pose?, State.relabel_pits]
  cases st.pose? with
  | none => rfl
  | some pose =>
      dsimp only
      cases s.zone.verdict st.pits (pose.cell.ahead pose.heading) <;> rfl

theorem face_relabel (turn : Heading → Heading) :
    face (st.relabel n source) turn = (face st turn).relabel n source := by
  unfold face
  rw [State.relabel_heading]
  cases st.heading <;> rfl

theorem report_relabel : s.report (st.relabel n source) = s.report st := rfl

theorem obeyKeyword_relabel (keyword : Text) :
    s.obeyKeyword (st.relabel n source) keyword =
      (s.obeyKeyword st keyword).relabel n source := by
  unfold obeyKeyword
  rw [advance_relabel, face_relabel, face_relabel, dig_relabel, report_relabel]
  split_ifs <;> rfl

theorem obey_relabel (c : Command) :
    s.obey (st.relabel n source) c = (s.obey st c).relabel n source := by
  cases c with
  | deploy cell heading => exact s.land_relabel st n source cell heading
  | pit cell => exact s.dig_relabel st n source (some cell)
  | move => exact s.advance_relabel st n source
  | left => exact face_relabel st n source Heading.left
  | right => exact face_relabel st n source Heading.right
  | report => rfl
  | custom keyword arguments => exact s.obeyKeyword_relabel st n source keyword

theorem heeds_relabel (c : Command) : heeds (st.relabel n source) c = heeds st c := by
  cases c <;> rfl

theorem respond_relabel (c : Command) :
    s.respond (st.relabel n source) c = (s.respond st c).relabel n source := by
  unfold respond
  rw [heeds_relabel, obey_relabel]
  split
  · cases s.overrides.get? c.keyword <;> rfl
  · rfl

theorem deedOf_relabel (line : Text) :
    s.deedOf (st.relabel n source) line = (s.deedOf st line).relabel (n + 1) source := by
  have number : numbered (st.relabel n source) = (numbered st).relabel (n + 1) source := rfl
  unfold deedOf
  rw [number]
  cases s.vocabulary.read line with
  | error refusal => cases refusal <;> rfl
  | ok c => exact s.respond_relabel (numbered st) (n + 1) source c

variable {s st} {st' : State}

theorem execute_alike (alike : State.Alike st st') (line : Text) :
    (s.execute st line).result = (s.execute st' line).result ∧
      State.Alike (s.execute st line).state (s.execute st' line).state := by
  rw [alike.eq_relabel]
  obtain ⟨result, state⟩ := s.execute_eq st line
  obtain ⟨result', state'⟩ := s.execute_eq (st.relabel st'.lineNumber st'.source) line
  rw [deedOf_relabel] at result' state'
  exact ⟨result.trans result'.symm, by rw [state, state']; exact ⟨rfl, rfl, rfl, rfl, rfl⟩⟩

end Settings

end Rover
