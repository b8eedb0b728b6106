import Mathlib.Data.List.TakeDrop
import Mathlib.Order.Lattice
import Rover.Chain

namespace Rover.Chain

def IsRead (v : Vocabulary) (line : Text) : Prop := ∀ m, v.read line ≠ .error (.mishap m)

instance (v : Vocabulary) (line : Text) : Decidable (IsRead v line) :=
  match h : v.read line with
  | .ok c => isTrue fun m => by rw [h]; simp
  | .error (.fault f) => isTrue fun m => by rw [h]; simp
  | .error (.mishap m) => isFalse fun read => read m h

def command? (v : Vocabulary) (line : Text) : Option Command := (v.read line).toOption

def Opens (v : Vocabulary) (line : Text) : Prop :=
  ∃ cell heading, v.read line = .ok (.deploy cell heading)

def Holds (v : Vocabulary) (line : Text) : Prop := ∃ cell, v.read line = .ok (.pit cell)

/-- The last place up to `i` where the chain is closed anew, or the start. -/
def lastReset (resets : List Nat) (i : Nat) : Nat := (resets.filter (· ≤ i)).foldr max 0

theorem lastReset_le (resets : List Nat) (i : Nat) : lastReset resets i ≤ i := by
  unfold lastReset
  induction resets with
  | nil => exact Nat.zero_le i
  | cons k rest ih =>
      by_cases h : k ≤ i
      · simpa [h] using ih
      · simpa [h] using ih

theorem lastReset_mem (resets : List Nat) (i : Nat) :
    lastReset resets i = 0 ∨ lastReset resets i ∈ resets := by
  unfold lastReset
  induction resets with
  | nil => exact .inl rfl
  | cons k rest ih =>
      by_cases h : k ≤ i
      · simp only [h, decide_true, List.filter_cons_of_pos, List.foldr_cons]
        rcases Nat.le_total k ((rest.filter (· ≤ i)).foldr max 0) with le | le
        · rw [Nat.max_eq_right le]
          exact ih.imp_right (List.mem_cons_of_mem k)
        · rw [Nat.max_eq_left le]
          exact .inr List.mem_cons_self
      · simpa [h] using ih.imp_right (List.mem_cons_of_mem k)

theorem le_lastReset {resets : List Nat} {i k : Nat} (member : k ∈ resets) (le : k ≤ i) :
    k ≤ lastReset resets i := by
  unfold lastReset
  induction resets with
  | nil => simp at member
  | cons j rest ih =>
      rcases List.mem_cons.1 member with rfl | member
      · simp [le]
      · by_cases h : j ≤ i
        · simpa [h] using Or.inr (ih member)
        · simpa [h] using ih member

variable {v : Vocabulary} {line : Text} {lines : List Text}

theorem given_of_isRead (h : IsRead v line) : given v line = .ok (command? v line) := by
  unfold given command?
  split
  · simp [*, Except.toOption]
  · simp [*, Except.toOption]
  · rename_i m refused
    exact absurd refused (h m)

theorem after_eq_true_iff {isOpen : Bool} :
    after isOpen (command? v line) = true ↔ Opens v line ∨ Holds v line ∧ isOpen = true := by
  unfold command? Opens Holds
  cases h : v.read line with
  | error e => simp [Except.toOption, after]
  | ok c => cases c <;> simp [Except.toOption, after]

theorem isOpenBefore_succ {i : Nat} {isOpen : Bool} (at_i : lines[i]? = some line)
    (h : IsRead v line) (before : isOpenBefore v lines i = .ok isOpen) :
    isOpenBefore v lines (i + 1) = .ok (after isOpen (command? v line)) := by
  unfold isOpenBefore at before ⊢
  rw [List.take_add_one, at_i]
  simp only [Option.toList_some, List.reverse_append, List.reverse_singleton, List.singleton_append,
    lookBack, before, command?]
  cases hr : v.read line with
  | ok c => cases c <;> rfl
  | error e =>
      cases e with
      | fault f => rfl
      | mishap m => exact absurd hr (h m)

theorem isOpenBefore_iff (readable : ∀ line ∈ lines, IsRead v line) {i : Nat}
    (le : i ≤ lines.length) :
    ∃ isOpen, isOpenBefore v lines i = .ok isOpen ∧
      (isOpen = true ↔ ∃ j < i, (∃ line, lines[j]? = some line ∧ Opens v line) ∧
        ∀ k, j < k → k < i → ∃ line, lines[k]? = some line ∧ Holds v line) := by
  induction i with
  | zero => exact ⟨false, rfl, by simp⟩
  | succ i ih =>
      obtain ⟨isOpen, before, iff⟩ := ih (by omega)
      have at_i : lines[i]? = some lines[i] := List.getElem?_eq_getElem le
      refine ⟨_, isOpenBefore_succ at_i (readable _ (List.getElem_mem le)) before, ?_⟩
      rw [after_eq_true_iff, iff]
      constructor
      · rintro (opens | ⟨holds, j, lt, opens, between⟩)
        · exact ⟨i, by omega, ⟨_, at_i, opens⟩, fun k _ _ => by omega⟩
        · refine ⟨j, by omega, opens, fun k jk ki => ?_⟩
          rcases Nat.lt_succ_iff_lt_or_eq.1 ki with ki | rfl
          · exact between k jk ki
          · exact ⟨_, at_i, holds⟩
      · rintro ⟨j, lt, ⟨line, at_j, opens⟩, between⟩
        rcases Nat.lt_succ_iff_lt_or_eq.1 lt with lt | rfl
        · obtain ⟨line', at_i', holds⟩ := between i lt (by omega)
          obtain rfl := Option.some.inj (at_i.symm.trans at_i')
          exact .inr ⟨holds, j, lt, ⟨line, at_j, opens⟩, fun k jk ki => between k jk (by omega)⟩
        · obtain rfl := Option.some.inj (at_i.symm.trans at_j)
          exact .inl opens

theorem history_step (resets : List Nat) (n : Nat) (isOpen : Bool)
    (readable : ∀ line ∈ lines, IsRead v line) :
    ∃ bits, history v resets n isOpen lines = .ok bits ∧ bits.length = lines.length + 1 ∧
      bits[0]? = some (isOpen && !resets.contains n) ∧
      ∀ i line, lines[i]? = some line → ∃ now, bits[i]? = some now ∧
        bits[i + 1]? = some (after now (command? v line) && !resets.contains (n + i + 1)) := by
  induction lines generalizing n isOpen with
  | nil => exact ⟨_, rfl, rfl, rfl, by simp⟩
  | cons first rest ih =>
      have read := given_of_isRead (readable first List.mem_cons_self)
      obtain ⟨bits, ok, length, zero, step⟩ := ih (n + 1)
        (after (isOpen && !resets.contains n) (command? v first))
        (fun line member => readable line (List.mem_cons_of_mem first member))
      refine ⟨(isOpen && !resets.contains n) :: bits, ?_, by simp [length], rfl, ?_⟩
      · simp only [history, read, bind, Except.bind, ok, pure, Except.pure]
      · intro i line at_i
        cases i with
        | zero =>
            obtain rfl := Option.some.inj at_i
            exact ⟨_, rfl, zero⟩
        | succ i =>
            obtain ⟨now, here, next⟩ := step i line at_i
            refine ⟨now, here, ?_⟩
            rw [List.getElem?_cons_succ, next]
            congr 4
            omega

theorem isOpenBefore_drop {bits : List Bool} {r i : Nat} (readable : ∀ line ∈ lines, IsRead v line)
    (le : i ≤ lines.length) (closed : bits[r]? = some false)
    (step : ∀ k line, r ≤ k → k < i → lines[k]? = some line → ∃ now, bits[k]? = some now ∧
      bits[k + 1]? = some (after now (command? v line))) (d : Nat) (up : r + d ≤ i) :
    ∃ isOpen, bits[r + d]? = some isOpen ∧ isOpenBefore v (lines.drop r) d = .ok isOpen := by
  induction d with
  | zero => exact ⟨false, closed, rfl⟩
  | succ d ih =>
      obtain ⟨isOpen, here, back⟩ := ih (by omega)
      have at_d : lines[r + d]? = some lines[r + d] := List.getElem?_eq_getElem (by omega)
      obtain ⟨now, here', next⟩ := step (r + d) _ (by omega) (by omega) at_d
      obtain rfl := Option.some.inj (here.symm.trans here')
      exact ⟨_, next, isOpenBefore_succ (by rw [List.getElem?_drop, at_d])
        (readable _ (List.getElem_mem _)) back⟩

theorem isOpenBefore_drop_iff {r i : Nat} {isOpen : Bool}
    (readable : ∀ line ∈ lines, IsRead v line) (ri : r ≤ i) (le : i ≤ lines.length)
    (back : isOpenBefore v (lines.drop r) (i - r) = .ok isOpen) :
    isOpen = true ↔ ∃ j, r ≤ j ∧ j < i ∧ (∃ line, lines[j]? = some line ∧ Opens v line) ∧
      ∀ k, j < k → k < i → ∃ line, lines[k]? = some line ∧ Holds v line := by
  have suffix : ∀ line ∈ lines.drop r, IsRead v line := fun line member =>
    readable line (List.mem_of_mem_drop member)
  obtain ⟨isOpen', back', iff⟩ := isOpenBefore_iff suffix (i := i - r) (by simp; omega)
  obtain rfl := Except.ok.inj (back.symm.trans back')
  simp only [List.getElem?_drop] at iff
  rw [iff]
  constructor
  · rintro ⟨j, lt, opens, between⟩
    refine ⟨r + j, by omega, by omega, opens, fun k jk ki => ?_⟩
    have holds := between (k - r) (by omega) (by omega)
    rwa [Nat.add_sub_cancel' (by omega)] at holds
  · rintro ⟨j, rj, lt, opens, between⟩
    refine ⟨j - r, by omega, ?_, fun k jk ki => between (r + k) (by omega) (by omega)⟩
    rwa [Nat.add_sub_cancel' rj]

/-- The chain carried forward is the one found by looking back to the last reset. -/
theorem history_eq_isOpenBefore (v : Vocabulary) (lines : List Text) (resets : List Nat)
    (readable : ∀ line ∈ lines, IsRead v line) :
    ∃ bits, history v resets 0 false lines = .ok bits ∧ bits.length = lines.length + 1 ∧
      ∀ i ≤ lines.length, ∃ isOpen, bits[i]? = some isOpen ∧
        isOpenBefore v (lines.drop (lastReset resets i)) (i - lastReset resets i) = .ok isOpen ∧
        (isOpen = true ↔
          ∃ j, lastReset resets i ≤ j ∧ j < i ∧ (∃ line, lines[j]? = some line ∧ Opens v line) ∧
            ∀ k, j < k → k < i → ∃ line, lines[k]? = some line ∧ Holds v line) := by
  obtain ⟨bits, ok, length, zero, step⟩ := history_step resets 0 false readable
  refine ⟨bits, ok, length, fun i le => ?_⟩
  have last := fun k (member : k ∈ resets) (le : k ≤ i) => le_lastReset member le
  have before := lastReset_le resets i
  have member := lastReset_mem resets i
  generalize lastReset resets i = r at *
  have closed : bits[r]? = some false := by
    cases r with
    | zero => simpa using zero
    | succ m =>
        obtain ⟨now, -, next⟩ := step m lines[m] (List.getElem?_eq_getElem (by omega))
        have told : m + 1 ∈ resets := member.resolve_left (by omega)
        simpa [told] using next
  have unreset : ∀ k line, r ≤ k → k < i → lines[k]? = some line → ∃ now, bits[k]? = some now ∧
      bits[k + 1]? = some (after now (command? v line)) := by
    intro k line rk ki at_k
    obtain ⟨now, here, next⟩ := step k line at_k
    have free : k + 1 ∉ resets := fun told => by
      have := last _ told (by omega)
      omega
    exact ⟨now, here, by simpa [free] using next⟩
  obtain ⟨isOpen, here, back⟩ :=
    isOpenBefore_drop readable le closed unreset (i - r) (by omega)
  rw [Nat.add_sub_cancel' before] at here
  exact ⟨isOpen, here, back, isOpenBefore_drop_iff readable before le back⟩

theorem history_eq_isOpenBefore_after_reset :
    ∃ (v : Vocabulary) (lines : List Text), (∀ line ∈ lines, IsRead v line) ∧
      ∃ bits, history v [2, 7] 0 false lines = .ok bits ∧
        bits = [false, true, false, false, true, true, false] ∧
        isOpenBefore v (lines.drop (lastReset [2, 7] 5)) (5 - lastReset [2, 7] 5) = .ok true := by
  let v := Vocabulary.ofVerbs [.deploy, .pit, .custom "JUMP".toList [.number]] true
  let lines := ["DEPLOY 0,0,NORTH".toList, "PIT 1,1".toList, "PIT 2,2".toList,
    "deploy 99,9,EAST".toList, " Pit -3,+3\n".toList, "JUMP up".toList]
  have readable : ∀ line ∈ lines, IsRead v line := by decide +kernel
  obtain ⟨bits, ok, -, at_each⟩ := history_eq_isOpenBefore v lines [2, 7] readable
  have told : history v [2, 7] 0 false lines =
      .ok [false, true, false, false, true, true, false] := by
    decide +kernel
  obtain rfl := Except.ok.inj (ok.symm.trans told)
  obtain ⟨isOpen, here, back, -⟩ := at_each 5 (by decide)
  obtain rfl := Option.some.inj here
  exact ⟨v, lines, readable, _, ok, rfl, back⟩

end Rover.Chain
