import Rover.Proofs.Board
import Rover.Proofs.Footprint
import Rover.Proofs.Portions
import Rover.Proofs.Walking

namespace Rover

namespace Settings

def retort (s : Settings) (st : State) (line : Text) : Option Text :=
  match s.vocabulary.read line with
  | .ok (.pit p) =>
      if st.activated = true ∧ st.chain = true ∧ st.position = some p then s.wording.robot
      else none
  | _ => none

def TellsPit (s : Settings) (line : Text) : Prop := ∃ p, s.vocabulary.read line = .ok (.pit p)

variable {s : Settings} {st : State} {line : Text} {lines others : List Text} {p : Cell}

theorem retort_eq_none_or (s : Settings) (st : State) (line : Text) :
    s.retort st line = none ∨ s.retort st line = s.wording.robot := by
  unfold retort
  split
  · split
    · exact .inr rfl
    · exact .inl rfl
  · exact .inl rfl

theorem execute_tellsPit (bare : s.overrides = Table.empty) (st : State) (tells : s.Tells st)
    (read : s.vocabulary.read line = .ok (.pit p)) :
    (s.execute st line).result = .ok (s.retort st line) ∧
    ∃ pits, (s.execute st line).state = { st with pits, lineNumber := st.lineNumber + 1 } ∧
      ∀ q, q ∈ pits ↔ q ∈ st.pits ∨
        st.activated = true ∧ st.chain = true ∧ st.position ≠ some p ∧ q = p := by
  obtain ⟨result, chain, member⟩ := execute_pit bare st read
  refine ⟨?_, (s.execute st line).state.pits, ?_, member⟩
  · rw [result tells, retort, read]
  · have booked := booked_pit bare st read
    split at booked
    · obtain ⟨isOpen, state⟩ := booked
      rw [state] at chain ⊢
      obtain rfl : isOpen = st.chain := chain
      rfl
    · obtain ⟨isOpen, state⟩ := booked
      rw [state] at chain ⊢
      obtain rfl : isOpen = st.chain := chain
      rfl

theorem executeAll_tellPits (bare : s.overrides = Table.empty) (st : State) (tells : s.Tells st)
    (told : ∀ line ∈ lines, s.TellsPit line) :
    (s.executeAll st lines).2.2 = .ok (lines.map (s.retort st)) ∧
    ∃ pits, (s.executeAll st lines).1 =
        { st with pits, lineNumber := st.lineNumber + lines.length } ∧
      ∀ q, q ∈ pits ↔ q ∈ st.pits ∨ st.activated = true ∧ st.chain = true ∧
        st.position ≠ some q ∧ ∃ line ∈ lines, s.vocabulary.read line = .ok (.pit q) := by
  induction lines generalizing st with
  | nil => exact ⟨rfl, st.pits, rfl, by simp⟩
  | cons line rest ih =>
      obtain ⟨p, read⟩ := told line List.mem_cons_self
      obtain ⟨result, dug, first, now⟩ := execute_tellsPit bare st tells read
      obtain ⟨state, outputs⟩ := executeAll_cons rest result
      have told : ∀ l ∈ rest, s.TellsPit l := fun l inside =>
        told l (List.mem_cons_of_mem line inside)
      rw [first] at state outputs
      have still : s.Tells { st with pits := dug, lineNumber := st.lineNumber + 1 } := by
        refine (tells_congr ?_ ?_ ?_).1 tells <;> rfl
      obtain ⟨answers, pits, after, later⟩ := ih _ still told
      refine ⟨?_, pits, ?_, fun q => ?_⟩
      · rw [outputs, answers]
        rfl
      · rw [state, after, List.length_cons, Nat.add_right_comm, Nat.add_assoc]
      · simp only [later, now, List.mem_cons, exists_eq_or_imp, read, Except.ok.injEq,
          Command.pit.injEq]
        constructor
        · rintro ((old | ⟨on, chain, apart, rfl⟩) | ⟨on, chain, apart, told⟩)
          · exact .inl old
          · exact .inr ⟨on, chain, apart, .inl rfl⟩
          · exact .inr ⟨on, chain, apart, .inr told⟩
        · rintro (old | ⟨on, chain, apart, rfl | told⟩)
          · exact .inl (.inl old)
          · exact .inl (.inr ⟨on, chain, apart, rfl⟩)
          · exact .inr ⟨on, chain, apart, told⟩

theorem executeAll_tellPits_alike (bare : s.overrides = Table.empty) (st : State)
    (tells : s.Tells st) (told : ∀ line ∈ lines, s.TellsPit line)
    (told' : ∀ line ∈ others, s.TellsPit line)
    (same : ∀ q, (∃ line ∈ lines, s.vocabulary.read line = .ok (.pit q)) ↔
      ∃ line ∈ others, s.vocabulary.read line = .ok (.pit q)) :
    ∃ pits,
      (s.executeAll st lines).1 = { st with pits, lineNumber := st.lineNumber + lines.length } ∧
      (s.executeAll st others).1 =
        { st with pits, lineNumber := st.lineNumber + others.length } := by
  obtain ⟨-, pits, state, member⟩ := executeAll_tellPits bare st tells told
  obtain ⟨-, pits', state', member'⟩ := executeAll_tellPits bare st tells told'
  have equal : pits' = pits := by
    apply Pits.eq_of_mem_iff
    intro q
    rw [member, member', same]
  exact ⟨pits, state, by rw [state', equal]⟩

/-- Neither the order of a block of lines that tell pits matters nor a pit that is told again, as
long as the trace, if it is on, can tell where the robot stands. -/
theorem executeAll_perm (bare : s.overrides = Table.empty) (st : State) (tells : s.Tells st)
    (told : ∀ line ∈ lines, s.TellsPit line) :
    (∀ others, lines.Perm others →
      (s.executeAll st others).1 = (s.executeAll st lines).1 ∧
      ∃ outputs outputs', (s.executeAll st lines).2.2 = .ok outputs ∧
        (s.executeAll st others).2.2 = .ok outputs' ∧ outputs.Perm outputs' ∧
        ∀ output ∈ outputs, output = none ∨ output = s.wording.robot) ∧
    ∀ earlier later line p, lines = earlier ++ later →
      s.vocabulary.read line = .ok (.pit p) →
      (∃ other ∈ lines, s.vocabulary.read other = .ok (.pit p)) →
      State.Alike (s.executeAll st (earlier ++ line :: later)).1 (s.executeAll st lines).1 := by
  refine ⟨fun others perm => ?_, fun earlier later line p split read again => ?_⟩
  · have told' : ∀ line ∈ others, s.TellsPit line := fun line inside =>
      told line (perm.mem_iff.2 inside)
    obtain ⟨pits, state, state'⟩ := executeAll_tellPits_alike bare st tells told told' fun q => by
      simp only [perm.mem_iff]
    -- no answer depends on the pits dug before it, so the answers are permuted as the lines are
    refine ⟨by rw [state, state', perm.length_eq], _, _, (executeAll_tellPits bare st tells told).1,
      (executeAll_tellPits bare st tells told').1, perm.map _, fun output inside => ?_⟩
    obtain ⟨line, -, rfl⟩ := List.mem_map.1 inside
    exact s.retort_eq_none_or st line
  · have inserted (l : Text) : l ∈ earlier ++ line :: later ↔ l = line ∨ l ∈ lines := by
      rw [List.perm_middle.mem_iff, List.mem_cons, split]
    have told' : ∀ l ∈ earlier ++ line :: later, s.TellsPit l := by
      intro l inside
      rcases (inserted l).1 inside with rfl | inside
      · exact ⟨p, read⟩
      · exact told l inside
    have known (q : Cell) :
        (∃ l ∈ earlier ++ line :: later, s.vocabulary.read l = .ok (.pit q)) ↔
          ∃ l ∈ lines, s.vocabulary.read l = .ok (.pit q) := by
      constructor
      · rintro ⟨l, inside, tells⟩
        rcases (inserted l).1 inside with rfl | inside
        · obtain rfl := Command.pit.inj (Except.ok.inj (read.symm.trans tells))
          exact again
        · exact ⟨l, inside, tells⟩
      · rintro ⟨l, inside, tells⟩
        exact ⟨l, (inserted l).2 (.inr inside), tells⟩
    obtain ⟨pits, state', state⟩ := executeAll_tellPits_alike bare st tells told' told known
    rw [state, state']
    exact ⟨rfl, rfl, rfl, rfl, rfl⟩

theorem executeAll_perm_under_robot :
    ∃ (st : State) (lines others : List Text),
      st = standard.after State.initial ["DEPLOY 3,3,EAST".toList, "DEPLOY 10,0,EAST".toList] ∧
      lines = ["PIT 1,1".toList, "PIT 3,3".toList, "PIT -4,99".toList, "PIT +3,03".toList,
        "PIT 1,1".toList] ∧
      others = ["PIT +3,03".toList, "PIT -4,99".toList, "PIT 1,1".toList, "PIT 1,1".toList,
        "PIT 3,3".toList] ∧
      standard.overrides = Table.empty ∧ standard.Reaches st ∧
      (∀ line ∈ lines, standard.TellsPit line) ∧ lines.Perm others ∧
      (standard.executeAll st others).1 = (standard.executeAll st lines).1 ∧
      (standard.executeAll st lines).1.pits.cells = [⟨-4, 99⟩, ⟨1, 1⟩] ∧
      (standard.executeAll st others).2.2 =
        .ok [some "ROBOT Detected: Ignored".toList, none, none, none,
          some "ROBOT Detected: Ignored".toList] ∧
      State.Alike (standard.executeAll st (lines ++ ["PIT -4,+99".toList])).1
        (standard.executeAll st lines).1 := by
  let st : State :=
    standard.after State.initial ["DEPLOY 3,3,EAST".toList, "DEPLOY 10,0,EAST".toList]
  let lines : List Text := ["PIT 1,1".toList, "PIT 3,3".toList, "PIT -4,99".toList,
    "PIT +3,03".toList, "PIT 1,1".toList]
  have bare : standard.overrides = Table.empty := rfl
  have told : ∀ line ∈ lines, standard.TellsPit line := by
    intro line inside
    simp only [lines, List.mem_cons, List.not_mem_nil, or_false] at inside
    rcases inside with rfl | rfl | rfl | rfl | rfl
    · exact ⟨⟨1, 1⟩, by decide +kernel⟩
    · exact ⟨⟨3, 3⟩, by decide +kernel⟩
    · exact ⟨⟨-4, 99⟩, by decide +kernel⟩
    · exact ⟨⟨3, 3⟩, by decide +kernel⟩
    · exact ⟨⟨1, 1⟩, by decide +kernel⟩
  have perm : lines.Perm ["PIT +3,03".toList, "PIT -4,99".toList, "PIT 1,1".toList,
      "PIT 1,1".toList, "PIT 3,3".toList] := by
    decide +kernel
  obtain ⟨shuffled, repeated⟩ := executeAll_perm bare st (tells_of_untraced rfl st) told
  have again := repeated lines [] "PIT -4,+99".toList ⟨-4, 99⟩ (List.append_nil lines).symm
    (by decide +kernel) ⟨"PIT -4,99".toList, by decide +kernel, by decide +kernel⟩
  exact ⟨st, lines, _, rfl, rfl, rfl, bare, Reaches.initial.replay _, told, perm,
    (shuffled _ perm).1, by decide +kernel, by decide +kernel, again⟩

end Settings

end Rover
