import Rover.Proofs.Ending
import Rover.Proofs.Telling

namespace Rover

namespace Settings

structure Spares (st : State) (deed : Deed) : Prop where
  pits : deed.state.pits = st.pits
  activated : deed.state.activated = st.activated

variable (s : Settings) (st : State)

theorem advance_spares : Spares st (s.advance st) := by
  unfold advance
  split
  · exact ⟨rfl, rfl⟩
  · split <;> exact ⟨rfl, rfl⟩

theorem face_spares (turn : Heading → Heading) : Spares st (face st turn) := by
  unfold face
  split <;> exact ⟨rfl, rfl⟩

theorem obeyKeyword_spares (keyword : Text) : Spares st (s.obeyKeyword st keyword) := by
  unfold obeyKeyword
  split_ifs
  · exact s.advance_spares st
  · exact face_spares st _
  · exact face_spares st _
  · exact ⟨rfl, rfl⟩
  · unfold dig
    split <;> exact ⟨rfl, rfl⟩
  · exact ⟨rfl, rfl⟩
  · exact ⟨rfl, rfl⟩

theorem land_pits (cell : Cell) (heading : Heading) :
    (s.land st cell heading).state.pits = st.pits := by
  unfold land
  split <;> rfl

theorem activated_land (cell : Cell) (heading : Heading) :
    (s.land st cell heading).state.activated = true ↔
      st.activated = true ∨ s.zone.verdict st.pits cell = .free := by
  unfold land
  split
  · rename_i free
    simp [free]
  · rename_i taken
    simp only [iff_self_or]
    exact fun free => absurd free taken

theorem dig_activated (cell? : Option Cell) :
    (s.dig st cell?).state.activated = st.activated := by
  unfold dig
  split
  · split
    · rfl
    · split <;> rfl
  · rfl

theorem mem_pits_dig {p cell : Cell} :
    p ∈ (s.dig st (some cell)).state.pits ↔
      p ∈ st.pits ∨ cell = p ∧ st.chain = true ∧ st.position ≠ some p := by
  unfold dig
  split
  · rename_i chain
    dsimp only
    split
    · rename_i here
      constructor
      · exact .inl
      · rintro (old | ⟨rfl, -, apart⟩)
        · exact old
        · exact absurd here apart
    · rename_i apart
      rw [Pits.mem_insert]
      constructor
      · rintro (rfl | old)
        · exact .inr ⟨rfl, chain, apart⟩
        · exact .inl old
      · rintro (old | ⟨rfl, -⟩)
        · exact .inr old
        · exact .inl rfl
  · rename_i closed
    simp [closed]

theorem mem_pits_respond (bare : s.overrides = Table.empty) {c : Command} {p : Cell} :
    p ∈ (s.respond st c).state.pits ↔
      p ∈ st.pits ∨ c = .pit p ∧ st.activated = true ∧ st.chain = true ∧ st.position ≠ some p := by
  by_cases heeded : heeds st c = true
  · rw [s.respond_of_heeds st bare heeded]
    cases c with
    | deploy cell heading => simp [obey, s.land_pits]
    | pit cell =>
        have on : st.activated = true := heeded
        simp [obey, s.mem_pits_dig, on]
    | move => simp [obey, (s.advance_spares st).pits]
    | left => simp [obey, (face_spares st _).pits]
    | right => simp [obey, (face_spares st _).pits]
    | report => simp [obey]
    | custom keyword arguments => simp [obey, (s.obeyKeyword_spares st keyword).pits]
  · rw [s.respond_of_deaf st heeded]
    simp only [iff_self_or]
    rintro ⟨rfl, on, -⟩
    exact absurd on heeded

theorem activated_respond (bare : s.overrides = Table.empty) {c : Command} :
    (s.respond st c).state.activated = true ↔
      st.activated = true ∨
        ∃ cell heading, c = .deploy cell heading ∧ s.zone.verdict st.pits cell = .free := by
  by_cases heeded : heeds st c = true
  · rw [s.respond_of_heeds st bare heeded]
    cases c with
    | deploy cell heading => simp [obey, s.activated_land]
    | pit cell => simp [obey, s.dig_activated]
    | move => simp [obey, (s.advance_spares st).activated]
    | left => simp [obey, (face_spares st _).activated]
    | right => simp [obey, (face_spares st _).activated]
    | report => simp [obey]
    | custom keyword arguments => simp [obey, (s.obeyKeyword_spares st keyword).activated]
  · rw [s.respond_of_deaf st heeded]
    simp only [iff_self_or]
    rintro ⟨cell, heading, rfl, -⟩
    exact absurd rfl heeded

variable {s st}

theorem mem_pits_execute (bare : s.overrides = Table.empty) {line : Text} {p : Cell} :
    p ∈ (s.execute st line).state.pits ↔
      p ∈ st.pits ∨ s.vocabulary.read line = .ok (.pit p) ∧ st.activated = true ∧
        st.chain = true ∧ st.position ≠ some p := by
  cases read : s.vocabulary.read line with
  | error refusal =>
      obtain ⟨isOpen, state⟩ := s.execute_state_of_refused st read
      simp [state, numbered]
  | ok c =>
      obtain ⟨isOpen, state⟩ := s.execute_state_of_read st read
      rw [state, Except.ok.injEq]
      exact s.mem_pits_respond (numbered st) bare

theorem activated_execute (bare : s.overrides = Table.empty) {line : Text} :
    (s.execute st line).state.activated = true ↔
      st.activated = true ∨ ∃ cell heading, s.vocabulary.read line = .ok (.deploy cell heading) ∧
        s.zone.verdict st.pits cell = .free := by
  cases read : s.vocabulary.read line with
  | error refusal =>
      obtain ⟨isOpen, state⟩ := s.execute_state_of_refused st read
      simp [state, numbered]
  | ok c =>
      obtain ⟨isOpen, state⟩ := s.execute_state_of_read st read
      simp only [state, Except.ok.injEq]
      exact s.activated_respond (numbered st) bare

theorem isRead_of_deed {line : Text} {output : Option Text}
    (ok : (s.deedOf st line).result = .ok output) : Chain.IsRead s.vocabulary line := by
  intro m refused
  rw [deedOf, refused] at ok
  cases ok

variable (s st) in
def before (lines : List Text) (i : Nat) : State := s.after st (lines.take i)

variable (s st) in
def Deployed (lines : List Text) (i : Nat) : Prop :=
  ∃ j < i, ∃ line cell heading, lines[j]? = some line ∧
    s.vocabulary.read line = .ok (.deploy cell heading) ∧
    s.zone.verdict (s.before st lines j).pits cell = .free

variable (s st) in
/-- Line `i` tells a pit of a deployed robot, right after a deployment and pits, and not where the
robot stands. -/
structure Digs (lines : List Text) (p : Cell) (i : Nat) : Prop where
  told : ∃ line, lines[i]? = some line ∧ s.vocabulary.read line = .ok (.pit p)
  deployed : s.Deployed st lines i
  chained : Chain.isOpenBefore s.vocabulary lines i = .ok true
  apart : (s.before st lines i).position ≠ some p

variable {lines : List Text}

theorem before_succ {i : Nat} {line : Text} (at_i : lines[i]? = some line) :
    s.before st lines (i + 1) = (s.execute (s.before st lines i) line).state := by
  unfold before after
  rw [List.take_add_one, at_i, List.map_append, replay_append]
  rfl

theorem passes_at (passed : s.Passes st (lines.map .text)) {i : Nat} {line : Text}
    (at_i : lines[i]? = some line) :
    ∃ output, (s.execute (s.before st lines i) line).result = .ok output := by
  obtain ⟨le, rfl⟩ := List.getElem?_eq_some_iff.1 at_i
  have split : lines.map Item.text =
      (lines.take i).map .text ++ .text lines[i] :: (lines.drop (i + 1)).map .text := by
    rw [← List.map_cons, ← List.map_append, List.getElem_cons_drop, List.take_append_drop]
  rw [split, passes_append, linesOf_text] at passed
  obtain ⟨-, line, output, holds, ok, -⟩ := passed
  obtain rfl := Except.ok.inj holds
  exact ⟨output, ok⟩

theorem isOpenBefore_before (closed : st.chain = false)
    (passed : s.Passes st (lines.map .text)) {i : Nat} (le : i ≤ lines.length) :
    Chain.isOpenBefore s.vocabulary lines i = .ok (s.before st lines i).chain := by
  induction i with
  | zero => exact congrArg Except.ok closed.symm
  | succ i ih =>
      have at_i : lines[i]? = some lines[i] := List.getElem?_eq_getElem le
      obtain ⟨output, ok⟩ := passes_at passed at_i
      have answered := isRead_of_deed (deedOf_eq_ok ok)
      rw [Chain.isOpenBefore_succ at_i answered (ih (by omega)), before_succ at_i,
        execute_chain (deedOf_eq_ok ok)]

theorem activated_before (bare : s.overrides = Table.empty) (off : st.activated = false) {i : Nat}
    (le : i ≤ lines.length) :
    (s.before st lines i).activated = true ↔ s.Deployed st lines i := by
  induction i with
  | zero => simp [before, off, Deployed]
  | succ i ih =>
      have at_i : lines[i]? = some lines[i] := List.getElem?_eq_getElem le
      rw [before_succ at_i, activated_execute bare, ih (by omega)]
      constructor
      · rintro (⟨j, lt, deployed⟩ | ⟨cell, heading, read, free⟩)
        · exact ⟨j, by omega, deployed⟩
        · exact ⟨i, by omega, _, cell, heading, at_i, read, free⟩
      · rintro ⟨j, lt, line, cell, heading, at_j, read, free⟩
        rcases Nat.lt_succ_iff_lt_or_eq.1 lt with lt | rfl
        · exact .inl ⟨j, lt, line, cell, heading, at_j, read, free⟩
        · obtain rfl := Option.some.inj (at_i.symm.trans at_j)
          exact .inr ⟨cell, heading, read, free⟩

theorem mem_pits_before (bare : s.overrides = Table.empty) (off : st.activated = false)
    (closed : st.chain = false) (empty : st.pits = Pits.empty)
    (passed : s.Passes st (lines.map .text)) {p : Cell} {i : Nat}
    (le : i ≤ lines.length) :
    p ∈ (s.before st lines i).pits ↔ ∃ k < i, s.Digs st lines p k := by
  induction i with
  | zero => simp [before, empty]
  | succ i ih =>
      have at_i : lines[i]? = some lines[i] := List.getElem?_eq_getElem le
      have chain := isOpenBefore_before closed passed (Nat.le_of_succ_le le)
      have deployed := activated_before bare off (Nat.le_of_succ_le le)
      rw [before_succ at_i, mem_pits_execute bare, ih (by omega), deployed]
      constructor
      · rintro (⟨k, lt, digs⟩ | ⟨read, on, isOpen, apart⟩)
        · exact ⟨k, by omega, digs⟩
        · exact ⟨i, by omega, ⟨_, at_i, read⟩, on, by rw [chain, isOpen], apart⟩
      · rintro ⟨k, lt, digs⟩
        rcases Nat.lt_succ_iff_lt_or_eq.1 lt with lt | rfl
        · exact .inl ⟨k, lt, digs⟩
        · obtain ⟨line, at_k, read⟩ := digs.told
          obtain rfl := Option.some.inj (at_i.symm.trans at_k)
          have isOpen := Except.ok.inj (chain.symm.trans digs.chained)
          exact .inr ⟨read, digs.deployed, isOpen, digs.apart⟩

theorem opening_fresh (s : Settings) (st : State) (fresh : s.keepsState = false)
    (source : Option Text) :
    (s.opening st source).activated = false ∧ (s.opening st source).chain = false ∧
      (s.opening st source).pits = Pits.empty := by
  unfold opening
  rw [if_neg (by simp [fresh])]
  exact ⟨rfl, rfl, rfl⟩

/-- The pits at the end of a run are those that its lines dig, wherever they lie and whatever came
of the deployment before them; and a line that tells a pit keeps the chain, whatever comes of it. -/
theorem mem_pits_process (s : Settings) (bare : s.overrides = Table.empty)
    (fresh : s.keepsState = false) (coloured : Bool) (st : State) (source : Option Text)
    (lines : List Text)
    (finished :
      (s.process coloured st (.given (.items (lines.map .text)) source)).ending = .finished) :
    (∀ p, p ∈ (s.process coloured st (.given (.items (lines.map .text)) source)).state.pits ↔
      ∃ i, s.Digs (s.opening st source) lines p i) ∧
    (∀ i p, s.Deployed (s.opening st source) lines i →
      (∃ line, lines[i]? = some line ∧ Chain.Opens s.vocabulary line) →
      (∃ line, lines[i + 1]? = some line ∧ s.vocabulary.read line = .ok (.pit p)) →
      (s.before (s.opening st source) lines (i + 1)).position ≠ some p →
      p ∈ (s.process coloured st (.given (.items (lines.map .text)) source)).state.pits) ∧
    ∀ i, (∃ line, lines[i]? = some line ∧ Chain.Holds s.vocabulary line) →
      Chain.isOpenBefore s.vocabulary lines (i + 1) = Chain.isOpenBefore s.vocabulary lines i ∧
      (s.before (s.opening st source) lines (i + 1)).chain =
        (s.before (s.opening st source) lines i).chain := by
  obtain ⟨off, closed, empty⟩ := s.opening_fresh st fresh source
  obtain ⟨_, opens, passed⟩ := process_finished_iff.1 finished
  obtain rfl := Option.some.inj opens
  have final : (s.process coloured st (.given (.items (lines.map .text)) source)).state =
      s.before (s.opening st source) lines lines.length := by
    rw [process_state opens finished]
    change s.after _ (s.linesOf (lines.map .text)) = _
    rw [linesOf_text, before, List.take_length]
  have pits : ∀ p, p ∈ (s.before (s.opening st source) lines lines.length).pits ↔
      ∃ i, s.Digs (s.opening st source) lines p i := by
    intro p
    rw [mem_pits_before bare off closed empty passed (Nat.le_refl _)]
    constructor
    · rintro ⟨i, -, digs⟩
      exact ⟨i, digs⟩
    · rintro ⟨i, digs⟩
      obtain ⟨line, at_i, -⟩ := digs.told
      exact ⟨i, (List.getElem?_eq_some_iff.1 at_i).1, digs⟩
  have bit {i : Nat} (le : i ≤ lines.length) := isOpenBefore_before closed passed le
  rw [final]
  refine ⟨pits, ?_, ?_⟩
  · rintro i p deployed ⟨line, at_i, opens⟩ ⟨next, at_next, told⟩ apart
    have lt := (List.getElem?_eq_some_iff.1 at_i).1
    obtain ⟨output, ok⟩ := passes_at passed at_i
    refine (pits p).2 ⟨i + 1, ⟨next, at_next, told⟩, ?_, ?_, apart⟩
    · obtain ⟨j, ji, rest⟩ := deployed
      exact ⟨j, by omega, rest⟩
    · rw [Chain.isOpenBefore_succ at_i (isRead_of_deed (deedOf_eq_ok ok)) (bit (Nat.le_of_lt lt)),
        Chain.after_eq_true_iff.2 (.inl opens)]
  · rintro i ⟨line, at_i, cell, told⟩
    have lt := (List.getElem?_eq_some_iff.1 at_i).1
    obtain ⟨output, ok⟩ := passes_at passed at_i
    have kept : (s.before (s.opening st source) lines (i + 1)).chain =
        (s.before (s.opening st source) lines i).chain := by
      rw [before_succ at_i, execute_chain (deedOf_eq_ok ok), Chain.command?, told]
      rfl
    exact ⟨by rw [bit lt, bit (Nat.le_of_lt lt), kept], kept⟩

theorem mem_pits_process_far :
    ∃ (lines : List Text) (stretch : Stretch),
      stretch = standard.process false State.initial (.given (.items (lines.map .text)) none) ∧
      standard.overrides = Table.empty ∧ standard.keepsState = false ∧
      stretch.ending = .finished ∧ stretch.state.pits.cells = [⟨-3, 99⟩, ⟨1, 1⟩, ⟨2, 2⟩] ∧
      (∃ i, standard.Digs State.initial lines ⟨-3, 99⟩ i) ∧
      ¬ (∃ i, standard.Digs State.initial lines ⟨0, 0⟩ i) ∧
      Chain.isOpenBefore standard.vocabulary lines 5 =
        Chain.isOpenBefore standard.vocabulary lines 4 := by
  let lines := ["DEPLOY 0,0,NORTH".toList, "PIT -3,+99".toList, "DEPLOY 40,0,EAST".toList,
    "PIT 1,1".toList, "PIT 0,0".toList, "PIT 2,2".toList, "JUMP".toList, "PIT 5,5".toList]
  have finished :
      (standard.process false State.initial (.given (.items (lines.map .text)) none)).ending =
        .finished := by
    decide +kernel
  have cells :
      (standard.process false State.initial
        (.given (.items (lines.map .text)) none)).state.pits.cells =
          [⟨-3, 99⟩, ⟨1, 1⟩, ⟨2, 2⟩] := by
    decide +kernel
  obtain ⟨pits, -, kept⟩ :=
    mem_pits_process standard rfl rfl false State.initial none lines finished
  refine ⟨lines, _, rfl, rfl, rfl, finished, cells, (pits _).1 ?_, fun digs => ?_, (kept 4 ?_).1⟩
  · change _ ∈ Pits.cells _
    rw [cells]
    decide
  · have member := (pits _).2 digs
    change _ ∈ Pits.cells _ at member
    rw [cells] at member
    revert member
    decide
  · exact ⟨"PIT 0,0".toList, rfl, ⟨0, 0⟩, by rfl⟩

end Settings

end Rover
