import Mathlib.Data.List.TakeWhile
import Rover.Vocabulary

namespace Rover

namespace Numeral

theorem sign_of_isDigit {c : Char} {rest : Text} (digit : isDigit c = true) :
    sign (c :: rest) = [] := by
  unfold sign
  split
  · rename_i eq
    obtain ⟨rfl, -⟩ := List.cons.inj eq
    exact absurd digit (by decide)
  · rename_i eq
    obtain ⟨rfl, -⟩ := List.cons.inj eq
    exact absurd digit (by decide)
  · rfl

theorem scan_of_isNumeral {s : Text} (h : IsNumeral s) : scan s = s := by
  have all : (unsigned s).takeWhile isDigit = unsigned s := List.takeWhile_eq_self_iff.2 h.2
  simp only [scan, all, h.1, if_false, sign_append_unsigned]

theorem isNumeral_of_scan {s : Text} (ne : scan s ≠ []) (whole : (scan s).length = s.length) :
    IsNumeral s := by
  have parts : (sign s).length + (unsigned s).length = s.length := by
    rw [← List.length_append, sign_append_unsigned]
  by_cases none : (unsigned s).takeWhile isDigit = []
  · simp [scan, none] at ne
  · simp only [scan, none, if_false, List.length_append] at whole
    have all : (unsigned s).takeWhile isDigit = unsigned s :=
      (List.takeWhile_prefix isDigit).eq_of_length (by omega)
    exact ⟨all ▸ none, List.takeWhile_eq_self_iff.1 all⟩

end Numeral

namespace Recognizer

theorem tokenAt?_of_ne_word {r : Recognizer}
    (notWord : ∀ spelling ignoreCase, r ≠ .word spelling ignoreCase) (s : Text) (i : Int) :
    r.tokenAt? s i = if r.prefixToken (s.drop i.toNat) = [] then none
      else some (r.prefixToken (s.drop i.toNat)) := by
  cases r with
  | word spelling ignoreCase => exact absurd rfl (notWord spelling ignoreCase)
  | _ => rfl

theorem matchAll?_of_ne_word {r : Recognizer} {s token : Text}
    (notWord : ∀ spelling ignoreCase, r ≠ .word spelling ignoreCase) :
    r.matchAll? s = some token ↔
      r.prefixToken s = token ∧ token ≠ [] ∧ token.length = s.length := by
  unfold matchAll?
  rw [tokenAt?_of_ne_word notWord, Int.toNat_zero, List.drop_zero]
  split
  · rename_i empty
    simp only [empty, Option.filter_none, reduceCtorEq, false_iff]
    rintro ⟨rfl, ne, -⟩
    exact ne rfl
  · rename_i ne
    simp only [Option.filter_eq_some_iff, Option.some.injEq, decide_eq_true_eq]
    constructor
    · rintro ⟨rfl, whole⟩
      exact ⟨rfl, ne, whole⟩
    · rintro ⟨rfl, -, whole⟩
      exact ⟨rfl, whole⟩

theorem matchAll?_numeral {s token : Text} :
    numeral.matchAll? s = some token ↔ Numeral.IsNumeral s ∧ token = s := by
  rw [matchAll?_of_ne_word (by simp)]
  constructor
  · rintro ⟨rfl, ne, whole⟩
    have h := Numeral.isNumeral_of_scan ne whole
    exact ⟨h, Numeral.scan_of_isNumeral h⟩
  · rintro ⟨h, rfl⟩
    refine ⟨Numeral.scan_of_isNumeral h, ?_, rfl⟩
    rintro rfl
    exact h.1 rfl

theorem prefixToken_heading_label (h : Heading) : heading.prefixToken h.label = h.label := by
  cases h <;> decide

theorem label_of_prefixToken_heading {s : Text} (ne : heading.prefixToken s ≠ []) :
    ∃ h : Heading, heading.prefixToken s = h.label ∧ h.label <+: s := by
  simp only [prefixToken] at ne ⊢
  cases found : Heading.all.find? (·.label.isPrefixOf s) with
  | none => simp [found] at ne
  | some h => exact ⟨h, rfl, List.isPrefixOf_iff_prefix.1 (by simpa using List.find?_some found)⟩

theorem matchAll?_heading {s token : Text} :
    heading.matchAll? s = some token ↔ ∃ h : Heading, h.label = s ∧ token = s := by
  rw [matchAll?_of_ne_word (by simp)]
  constructor
  · rintro ⟨rfl, ne, whole⟩
    obtain ⟨h, eq, start⟩ := label_of_prefixToken_heading ne
    rw [eq] at whole ⊢
    have all := start.eq_of_length whole
    exact ⟨h, all, all⟩
  · rintro ⟨h, rfl, rfl⟩
    exact ⟨prefixToken_heading_label h, by cases h <;> decide, rfl⟩

theorem slice_prefix (s : Text) (n : Nat) : Text.slice s 0 (0 + n) = s.take n := by
  have start : Text.clamp s.length 0 = 0 := by simp [Text.clamp]
  have stop : Text.clamp s.length (0 + n) = min s.length n := by
    simp only [Text.clamp]
    rw [if_neg (by omega)]
    congr 1
    omega
  rw [Text.slice, start, stop, List.drop_zero, List.take_eq_take_iff]
  omega

theorem matchAll?_word_eq_some_iff {spelling s token : Text} {ignoreCase : Bool} :
    (word spelling ignoreCase).matchAll? s = some token ↔
      (s.length = spelling.length ∧ sameWord ignoreCase s spelling = true) ∧
        token = spelling := by
  simp only [matchAll?, tokenAt?, slice_prefix]
  constructor
  · intro found
    obtain ⟨found, whole⟩ := Option.filter_eq_some_iff.1 found
    split at found
    · rename_i same
      obtain rfl := Option.some.inj found
      have whole : spelling.length = s.length := of_decide_eq_true whole
      rw [whole, List.take_length] at same
      exact ⟨⟨whole.symm, same⟩, rfl⟩
    · cases found
  · rintro ⟨⟨whole, same⟩, rfl⟩
    rw [← whole, List.take_length, if_pos same]
    simp [whole]

theorem matchAll?_word {spelling s token : Text} :
    (word spelling false).matchAll? s = some token ↔ s = spelling ∧ token = spelling := by
  rw [matchAll?_word_eq_some_iff, and_congr_left_iff]
  rintro -
  constructor
  · rintro ⟨-, same⟩
    exact eq_of_beq same
  · rintro rfl
    exact ⟨rfl, beq_self_eq_true s⟩

end Recognizer

namespace Table

variable {α : Type}

theorem mem_of_get? {t : Table α} {key : Text} {a : α} (h : t.get? key = some a) :
    (key, a) ∈ t.entries := by
  obtain ⟨entries⟩ := t
  simp only [get?] at h
  induction entries with
  | nil => cases h
  | cons e rest ih =>
      obtain ⟨k, b⟩ := e
      simp only [lookIn] at h
      split at h
      · rename_i same
        obtain rfl := Option.some.inj h
        simp [same]
      · exact List.mem_cons_of_mem _ (ih h)

theorem get?_of_mem_keys {t : Table α} {key : Text} (h : key ∈ t.keys) :
    ∃ a, t.get? key = some a := by
  obtain ⟨entries⟩ := t
  simp only [keys, get?] at h ⊢
  induction entries with
  | nil => simp at h
  | cons e rest ih =>
      obtain ⟨k, b⟩ := e
      simp only [lookIn]
      split
      · exact ⟨b, rfl⟩
      · rename_i ne
        exact ih ((List.mem_cons.1 h).resolve_left fun same => ne same.symm)

end Table

end Rover
