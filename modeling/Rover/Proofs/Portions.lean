import Rover.Proofs.Mistakes
import Rover.Proofs.PitHistory

namespace Rover

structure Upshot.Alike (u w : Upshot) : Prop where
  state : State.Alike u.state w.state
  warnings : u.warnings.map unnumbered = w.warnings.map unnumbered
  result : u.result = w.result

namespace Upshot

theorem Alike.refl (u : Upshot) : Alike u u := ⟨.refl _, rfl, rfl⟩

theorem Alike.symm {u w : Upshot} (h : Alike u w) : Alike w u :=
  ⟨h.state.symm, h.warnings.symm, h.result.symm⟩

theorem Alike.trans {u w x : Upshot} (h : Alike u w) (k : Alike w x) : Alike u x :=
  ⟨h.state.trans k.state, h.warnings.trans k.warnings, h.result.trans k.result⟩

theorem Alike.andThen {u w : Upshot} (h : Alike u w) {next after : State → Upshot}
    (alike : ∀ st st', State.Alike st st' → Alike (next st) (after st')) :
    Alike (u.andThen next) (w.andThen after) := by
  cases first : u.result with
  | error why =>
      rw [andThen_error first, andThen_error (h.result.symm.trans first)]
      exact h
  | ok outputs =>
      rw [andThen_ok first, andThen_ok (h.result.symm.trans first)]
      have later := alike u.state w.state h.state
      refine ⟨later.state, ?_, ?_⟩
      · rw [List.map_append, List.map_append, h.warnings, later.warnings]
      · dsimp only
        rw [later.result]

end Upshot

/-- A way to hand lines to a rover: together, as a source of their own, or one line alone. -/
inductive Portion where
  | together (lines : List Text) (source : Option Text)
  | alone (line : Text)

def Portion.lines : Portion → List Text
  | .together lines _ => lines
  | .alone line => [line]

namespace Settings

variable (s : Settings) (coloured : Bool)

def hand (st : State) : Portion → Upshot
  | .together lines source =>
      (s.process coloured st (.given (.items (lines.map .text)) source)).upshot
  | .alone line => (s.execute st line).upshot

def handAll : State → List Portion → Upshot
  | st, [] => .still st
  | st, portion :: rest => (s.hand coloured st portion).andThen fun st => handAll st rest

variable {s}

theorem execute_upshot_alike {st st' : State} (alike : State.Alike st st') (line : Text) :
    (s.execute st line).upshot.Alike (s.execute st' line).upshot := by
  obtain ⟨result, state⟩ := execute_alike (s := s) alike line
  refine ⟨state, s.execute_unnumbered st st' line, ?_⟩
  simp only [Turn.upshot, result]

theorem lineByLine_alike {st st' : State} (alike : State.Alike st st') (lines : List Text) :
    (s.lineByLine st lines).Alike (s.lineByLine st' lines) := by
  induction lines generalizing st st' with
  | nil => exact ⟨alike, rfl, rfl⟩
  | cons line rest ih => exact (execute_upshot_alike alike line).andThen fun _ _ => ih

theorem opening_alike (keeps : s.keepsState = true) (st : State) (source : Option Text) :
    State.Alike (s.opening st source) st := by
  unfold opening
  rw [if_pos keeps]
  exact ⟨rfl, rfl, rfl, rfl, rfl⟩

theorem hand_alike (keeps : s.keepsState = true) (st : State) (portion : Portion) :
    (s.hand coloured st portion).Alike (s.lineByLine st portion.lines) := by
  cases portion with
  | together lines source =>
      rw [hand, s.process_upshot coloured st rfl rfl]
      exact lineByLine_alike (opening_alike keeps st source) lines
  | alone line =>
      rw [hand, Portion.lines, lineByLine_single]
      exact .refl _

theorem handAll_alike (keeps : s.keepsState = true) (portions : List Portion) {st st' : State}
    (alike : State.Alike st st') :
    (s.handAll coloured st portions).Alike
      (s.lineByLine st' (portions.flatMap Portion.lines)) := by
  induction portions generalizing st st' with
  | nil => exact ⟨alike, rfl, rfl⟩
  | cons portion rest ih =>
      rw [List.flatMap_cons, lineByLine_append, handAll]
      have first := (hand_alike coloured keeps st portion).trans
        (lineByLine_alike alike portion.lines)
      exact first.andThen fun _ _ => ih

theorem tells_execute_pit {st : State} {line : Text} {p : Cell}
    (told : s.vocabulary.read line = .ok (.pit p)) :
    s.Tells (s.execute st line).state ↔ s.Tells st := by
  have still : (s.respond (numbered st) (.pit p)).state.activated = st.activated ∧
      (s.respond (numbered st) (.pit p)).state.position = st.position ∧
      (s.respond (numbered st) (.pit p)).state.heading = st.heading := by
    unfold respond
    split
    · split
      · exact ⟨rfl, rfl, rfl⟩
      · unfold obey dig
        dsimp only
        split_ifs <;> exact ⟨rfl, rfl, rfl⟩
    · exact ⟨rfl, rfl, rfl⟩
  rw [execute_told_iff, deedOf, told]
  exact tells_congr still.1 still.2.1 still.2.2

theorem execute_pit (bare : s.overrides = Table.empty) (st : State) {line : Text} {p : Cell}
    (told : s.vocabulary.read line = .ok (.pit p)) :
    (s.Tells st → (s.execute st line).result =
        .ok (if st.activated = true ∧ st.chain = true ∧ st.position = some p then s.wording.robot
          else none)) ∧
      (s.execute st line).state.chain = st.chain ∧
      ∀ q, q ∈ (s.execute st line).state.pits ↔
        q ∈ st.pits ∨ st.activated = true ∧ st.chain = true ∧ st.position ≠ some p ∧ q = p := by
  have result : (s.deedOf st line).result =
      .ok (if st.activated = true ∧ st.chain = true ∧ st.position = some p then s.wording.robot
        else none) := by
    rw [deedOf, told]
    dsimp only
    by_cases on : st.activated = true
    · have heeded : heeds (numbered st) (.pit p) = true := on
      rw [s.respond_of_heeds (numbered st) bare heeded]
      simp only [obey, dig, numbered, on, true_and]
      by_cases chain : st.chain = true
      · simp only [chain, if_true, true_and]
        split <;> rfl
      · simp [chain]
    · have deaf : ¬ heeds (numbered st) (.pit p) = true := on
      rw [s.respond_of_deaf (numbered st) deaf]
      simp [on]
  refine ⟨fun tells => ?_, ?_, fun q => ?_⟩
  · rw [execute_result ((tells_execute_pit told).2 tells), result]
  · rw [execute_chain result, Chain.command?, told]
    rfl
  · rw [mem_pits_execute bare, told, Except.ok.injEq, Command.pit.injEq]
    constructor
    · rintro (old | ⟨rfl, on, chain, apart⟩)
      · exact .inl old
      · exact .inr ⟨on, chain, apart, rfl⟩
    · rintro (old | ⟨on, chain, apart, rfl⟩)
      · exact .inl old
      · exact .inr ⟨rfl, on, chain, apart⟩

/-- However lines are cut into sources and single lines, a rover that keeps its state does the same;
and a pit at the start of a source is taken up as the lines before left the chain. -/
theorem process_in_portions (s : Settings) (keeps : s.keepsState = true) (coloured : Bool)
    (st : State) :
    (∀ portions source, (s.handAll coloured st portions).Alike
      (s.hand coloured st (.together (portions.flatMap Portion.lines) source))) ∧
    (∀ (first second : List Text) (x y z : Option Text),
      let one := s.process coloured st (.given (.items (first.map .text)) x)
      let two := s.process coloured one.state (.given (.items (second.map .text)) y)
      let both := s.process coloured st (.given (.items ((first ++ second).map .text)) z)
      (both.ending = .finished ↔ one.ending = .finished ∧ two.ending = .finished) ∧
      (both.ending = .finished →
        both.outputs = one.outputs ++ two.outputs ∧ State.Alike both.state two.state)) ∧
    (s.overrides = Table.empty → ∀ (first : List Text) (x y : Option Text) (line : Text) (p : Cell),
      s.vocabulary.read line = .ok (.pit p) →
      let left := (s.process coloured st (.given (.items (first.map .text)) x)).state
      let turn := s.execute (s.opening left y) line
      (s.Tells left → turn.result =
        .ok (if left.activated = true ∧ left.chain = true ∧ left.position = some p then
          s.wording.robot else none)) ∧
      turn.state.chain = left.chain ∧
      ∀ q, q ∈ turn.state.pits ↔ q ∈ left.pits ∨
        left.activated = true ∧ left.chain = true ∧ left.position ≠ some p ∧ q = p) := by
  have cut (portions : List Portion) (source : Option Text) :
      (s.handAll coloured st portions).Alike
        (s.hand coloured st (.together (portions.flatMap Portion.lines) source)) :=
    (handAll_alike coloured keeps portions (.refl st)).trans
      (hand_alike coloured keeps st (.together _ source)).symm
  refine ⟨cut, fun first second x y z => ?_, fun bare first x y line p told => ?_⟩
  · intro one two both
    have pair : (one.upshot.andThen fun st =>
        s.hand coloured st (.together second y)).Alike both.upshot := by
      have parts := cut [.together first x, .together second y] z
      simp only [handAll, Upshot.andThen_still, List.flatMap_cons, List.flatMap_nil,
        List.append_nil, Portion.lines] at parts
      exact parts
    have whole (outputs : List Text) : both.whole = .ok outputs ↔
        ∃ a b, one.whole = .ok a ∧ two.whole = .ok b ∧ outputs = a ++ b := by
      have result : (one.upshot.andThen fun st =>
          s.hand coloured st (.together second y)).result = both.whole := pair.result
      rw [← result, Upshot.andThen_result_eq_ok_iff]
      rfl
    have together (finished : both.ending = .finished) :
        one.ending = .finished ∧ two.ending = .finished ∧
          both.outputs = one.outputs ++ two.outputs := by
      obtain ⟨a, b, ok, ok', eq⟩ :=
        (whole _).1 ((s.process_whole_eq_ok_iff coloured st _).2 ⟨finished, rfl⟩)
      obtain ⟨finished, rfl⟩ := (s.process_whole_eq_ok_iff coloured st _).1 ok
      obtain ⟨finished', rfl⟩ := (s.process_whole_eq_ok_iff coloured one.state _).1 ok'
      exact ⟨finished, finished', eq⟩
    refine ⟨⟨fun finished => ?_, fun ⟨finished, finished'⟩ => ?_⟩, fun finished => ⟨?_, ?_⟩⟩
    · exact ⟨(together finished).1, (together finished).2.1⟩
    · have ok := (s.process_whole_eq_ok_iff coloured st _).2 ⟨finished, rfl⟩
      have ok' := (s.process_whole_eq_ok_iff coloured one.state _).2 ⟨finished', rfl⟩
      exact ((s.process_whole_eq_ok_iff coloured st _).1 ((whole _).2 ⟨_, _, ok, ok', rfl⟩)).1
    · exact (together finished).2.2
    · have ok := (s.process_whole_eq_ok_iff coloured st _).2 ⟨(together finished).1, rfl⟩
      have state := pair.state
      rw [Upshot.andThen_ok ok] at state
      exact state.symm
  · intro left turn
    have alike := opening_alike keeps left y
    obtain ⟨result, chain, pits⟩ := execute_pit bare (s.opening left y) told
    rw [alike.activated, alike.chain, alike.position] at result
    have told := tells_congr (s := s) alike.activated alike.position alike.heading
    refine ⟨fun tells => result (told.2 tells), chain.trans alike.chain, fun q => ?_⟩
    rw [pits, alike.activated, alike.chain, alike.position, alike.pits]

theorem process_in_portions_dug :
    ∃ (s : Settings) (first second : List Text) (left : State),
      s.keepsState = true ∧ s.overrides = Table.empty ∧
      (s.handAll false State.initial
        [.together first none, .alone "PIT 2,1".toList, .together second none]).Alike
          (s.hand false State.initial
            (.together (first ++ "PIT 2,1".toList :: second) none)) ∧
      (s.hand false State.initial (.together (first ++ "PIT 2,1".toList :: second) none)).result =
        .ok ["Outside Zone: Ignored".toList, "PIT Detected: Ignored".toList, "1,1,EAST".toList] ∧
      left = (s.process false State.initial (.given (.items (first.map .text)) none)).state ∧
      left.chain = true ∧ s.vocabulary.read "PIT 2,1".toList = .ok (.pit ⟨2, 1⟩) ∧
      ⟨2, 1⟩ ∈ (s.execute (s.opening left none) "PIT 2,1".toList).state.pits := by
  let s : Settings := { standard with keepsState := true }
  let first := ["DEPLOY 0,0,NORTH".toList, "JUMP".toList, "DEPLOY 1,1,EAST".toList,
    "DEPLOY 9,10,EAST".toList]
  let second := ["MOVE".toList, "REPORT".toList]
  obtain ⟨cut, -, taken⟩ := process_in_portions s rfl false State.initial
  have told : s.vocabulary.read "PIT 2,1".toList = .ok (.pit ⟨2, 1⟩) := by decide +kernel
  obtain ⟨-, -, pits⟩ := taken rfl first none none _ _ told
  obtain ⟨left, left_eq⟩ : ∃ left, left =
      (s.process false State.initial (.given (.items (first.map .text)) none)).state := ⟨_, rfl⟩
  rw [← left_eq] at pits
  obtain ⟨on, chain, apart⟩ : left.activated = true ∧ left.chain = true ∧
      left.position ≠ some ⟨2, 1⟩ := by
    rw [left_eq]
    decide +kernel
  have result : (s.hand false State.initial
      (.together (first ++ "PIT 2,1".toList :: second) none)).result =
        .ok ["Outside Zone: Ignored".toList, "PIT Detected: Ignored".toList,
          "1,1,EAST".toList] := by
    decide +kernel
  have parts := cut [.together first none, .alone "PIT 2,1".toList, .together second none] none
  simp only [List.flatMap_cons, List.flatMap_nil, Portion.lines, List.append_nil,
    List.singleton_append] at parts
  exact ⟨s, first, second, left, rfl, rfl, parts, result, left_eq, chain, told,
    (pits _).2 (.inr ⟨on, chain, apart, rfl⟩)⟩

end Settings

end Rover
