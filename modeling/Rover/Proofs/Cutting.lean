import Mathlib.Data.List.TakeWhile
import Rover.Numeral
import Rover.Phrase

namespace Rover

namespace Text

structure IsTrimmed (s : Text) : Prop where
  first : ∀ c ∈ s.head?, isBlank c = false
  last : ∀ c ∈ s.getLast?, isBlank c = false

theorem IsTrimmed.of_forall {s : Text} (clear : ∀ c ∈ s, isBlank c = false) : IsTrimmed s :=
  ⟨fun c h => clear c (List.mem_of_mem_head? h), fun c h => clear c (List.mem_of_mem_getLast? h)⟩

theorem dropWhile_stop {p : Char → Bool} {s rest : Text} (inside : ∀ c ∈ s, p c = true)
    (stop : ∀ c ∈ rest.head?, p c = false) : (s ++ rest).dropWhile p = rest := by
  rw [List.dropWhile_append_of_pos inside]
  cases rest with
  | nil => rfl
  | cons c tail => rw [List.dropWhile_cons_of_neg (by simp [stop c rfl])]

theorem trim_padded {u s v : Text} (before : ∀ c ∈ u, isBlank c = true) (trimmed : IsTrimmed s)
    (behind : ∀ c ∈ v, isBlank c = true) : trim (u ++ s ++ v) = s := by
  unfold trim trimEnd
  rw [List.append_assoc]
  have last : ∀ c ∈ s.reverse.head?, isBlank c = false := by
    rw [List.head?_reverse]
    exact trimmed.last
  cases s with
  | nil =>
      rw [List.nil_append, ← List.append_nil (u ++ v),
        dropWhile_stop (fun c h => (List.mem_append.1 h).elim (before c) (behind c)) (by simp)]
      rfl
  | cons c rest =>
      rw [dropWhile_stop before (by simpa using trimmed.first), List.reverse_append,
        dropWhile_stop (by simpa using behind) last, List.reverse_reverse]

theorem exists_trimEnd (drop : Char → Bool) (s : Text) :
    ∃ v, (∀ c ∈ v, drop c = true) ∧ s = trimEnd drop s ++ v := by
  refine ⟨(s.reverse.takeWhile drop).reverse, fun c member => ?_, ?_⟩
  · exact List.mem_takeWhile_imp (List.mem_reverse.1 member)
  · rw [trimEnd, ← List.reverse_append, List.takeWhile_append_dropWhile, List.reverse_reverse]

theorem exists_trim (s : Text) : ∃ u v, (∀ c ∈ u, isBlank c = true) ∧
    (∀ c ∈ v, isBlank c = true) ∧ s = u ++ trim s ++ v := by
  obtain ⟨v, behind, back⟩ := exists_trimEnd isBlank (s.dropWhile isBlank)
  refine ⟨s.takeWhile isBlank, v, fun c => List.mem_takeWhile_imp, behind, ?_⟩
  rw [List.append_assoc, trim, ← back, List.takeWhile_append_dropWhile]

theorem splitAt_eq_splitOn (sep : Char) (s : Text) : splitAt sep s = s.splitOn sep := by
  induction s with
  | nil => rfl
  | cons c rest ih =>
      rw [splitAt, List.splitOn_cons_eq_if_modifyHead, ih]
      by_cases same : c = sep
      · simp [same]
      · obtain ⟨piece, pieces, eq⟩ := List.exists_cons_of_ne_nil (List.splitOn_ne_nil sep rest)
        simp [same, eq, extend]

end Text

namespace Phrase

open Text

theorem ofLine_padded {u keyword w rest v : Text} (before : ∀ c ∈ u, isBlank c = true)
    (solid : ∀ c ∈ keyword, isBlank c = false) (keyword_ne : keyword ≠ [])
    (between : ∀ c ∈ w, isBlank c = true) (w_ne : w ≠ []) (trimmed : IsTrimmed rest)
    (rest_ne : rest ≠ []) (behind : ∀ c ∈ v, isBlank c = true) :
    ofLine (u ++ (keyword ++ (w ++ rest)) ++ v) = ⟨keyword, splitAt ',' rest⟩ := by
  have body : trim (u ++ (keyword ++ (w ++ rest)) ++ v) = keyword ++ (w ++ rest) := by
    refine trim_padded before ⟨fun c h => solid c ?_, fun c h => trimmed.last c ?_⟩ behind
    · obtain ⟨k, word, rfl⟩ := List.exists_cons_of_ne_nil keyword_ne
      obtain rfl : k = c := by simpa using h
      exact List.mem_cons_self
    · simpa [List.getLast?_append, List.getLast?_eq_some_getLast rest_ne] using h
  have solid' : ∀ c ∈ keyword, (!isBlank c) = true := fun c h => by rw [solid c h]; rfl
  have stop : ∀ c ∈ (w ++ rest).head?, (!isBlank c) = false := by
    obtain ⟨b, blanks, rfl⟩ := List.exists_cons_of_ne_nil w_ne
    simpa using between b List.mem_cons_self
  have apart : (keyword ++ (w ++ rest)).dropWhile (!isBlank ·) = w ++ rest :=
    dropWhile_stop solid' stop
  have word : (keyword ++ (w ++ rest)).takeWhile (!isBlank ·) = keyword := by
    have whole := List.takeWhile_append_dropWhile (p := (!isBlank ·)) (l := keyword ++ (w ++ rest))
    rw [apart] at whole
    exact List.append_cancel_right whole
  unfold ofLine
  rw [body]
  dsimp only
  split
  · rename_i empty
    rw [apart] at empty
    exact absurd (List.append_eq_nil_iff.1 empty).1 w_ne
  · rw [word, apart, dropWhile_stop between trimmed.first]

theorem ofLine_bare {u keyword v : Text} (before : ∀ c ∈ u, isBlank c = true)
    (solid : ∀ c ∈ keyword, isBlank c = false) (behind : ∀ c ∈ v, isBlank c = true) :
    ofLine (u ++ keyword ++ v) = ⟨keyword, []⟩ := by
  have none : keyword.dropWhile (!isBlank ·) = [] :=
    List.dropWhile_eq_nil_iff.2 fun c member => by rw [solid c member]; rfl
  unfold ofLine
  rw [trim_padded before (.of_forall solid) behind]
  dsimp only
  rw [none]

theorem clear_intercalate {arguments : List Text}
    (clear : ∀ a ∈ arguments, ∀ c ∈ a, isBlank c = false) :
    ∀ c ∈ [','].intercalate arguments, isBlank c = false := by
  induction arguments with
  | nil => simp
  | cons a others ih =>
      cases others with
      | nil => simpa using clear
      | cons b others =>
          intro c member
          rw [List.intercalate_cons_cons, List.mem_append, List.mem_append] at member
          rcases member with (member | member) | member
          · exact clear a List.mem_cons_self c member
          · rw [List.mem_singleton.1 member]
            decide
          · exact ih (fun a later => clear a (List.mem_cons_of_mem _ later)) c member

theorem ofLine_arguments {u keyword w v : Text} {arguments : List Text}
    (before : ∀ c ∈ u, isBlank c = true) (solid : ∀ c ∈ keyword, isBlank c = false)
    (keyword_ne : keyword ≠ []) (between : ∀ c ∈ w, isBlank c = true) (w_ne : w ≠ [])
    (given : arguments ≠ []) (clear : ∀ a ∈ arguments, ∀ c ∈ a, isBlank c = false ∧ c ≠ ',')
    (rest_ne : [','].intercalate arguments ≠ []) (behind : ∀ c ∈ v, isBlank c = true) :
    ofLine (u ++ (keyword ++ (w ++ [','].intercalate arguments)) ++ v) = ⟨keyword, arguments⟩ := by
  have trimmed : IsTrimmed ([','].intercalate arguments) :=
    .of_forall (clear_intercalate fun a listed c member => (clear a listed c member).1)
  rw [ofLine_padded before solid keyword_ne between w_ne trimmed rest_ne behind,
    splitAt_eq_splitOn,
    List.splitOn_intercalate ',' (fun a listed member => (clear a listed _ member).2 rfl) given]

theorem exists_spelling (line : Text) : ∃ u v, (∀ c ∈ u, isBlank c = true) ∧
    (∀ c ∈ v, isBlank c = true) ∧
    ((ofLine line).arguments = [] ∧ line = u ++ (ofLine line).keyword ++ v ∨
      (ofLine line).arguments ≠ [] ∧ ∃ w, (∀ c ∈ w, isBlank c = true) ∧ w ≠ [] ∧
        line = u ++ ((ofLine line).keyword ++
          (w ++ [','].intercalate (ofLine line).arguments)) ++ v) := by
  obtain ⟨u, v, before, behind, whole⟩ := exists_trim line
  refine ⟨u, v, before, behind, ?_⟩
  generalize body_eq : trim line = body at whole
  unfold ofLine
  rw [body_eq]
  dsimp only
  split
  · exact .inl ⟨rfl, whole⟩
  · rename_i found
    have some : body.dropWhile (!isBlank ·) ≠ [] := found
    have first := List.head_dropWhile_not (!isBlank ·) some
    refine .inr ⟨splitAt_ne_nil _ _, (body.dropWhile (!isBlank ·)).takeWhile isBlank,
      List.all_eq_true.1 List.all_takeWhile, fun empty => ?_, ?_⟩
    · obtain ⟨c, tail, eq⟩ := List.exists_cons_of_ne_nil some
      simp only [eq, List.head_cons, Bool.not_eq_false'] at first
      rw [eq, List.takeWhile_cons_of_pos first] at empty
      cases empty
    · rw [splitAt_eq_splitOn, List.intercalate_splitOn, List.takeWhile_append_dropWhile,
        List.takeWhile_append_dropWhile]
      exact whole

end Phrase

namespace Numeral

theorem clear_of_isNumeral {s : Text} (numeral : IsNumeral s) :
    ∀ c ∈ s, Text.isBlank c = false ∧ c ≠ ',' := by
  have digit (c : Char) (h : isDigit c = true) : Text.isBlank c = false ∧ c ≠ ',' := by
    have bounds : 48 ≤ c.toNat ∧ c.toNat ≤ 57 := by
      simp only [isDigit, Bool.and_eq_true, decide_eq_true_eq] at h
      exact h
    refine ⟨?_, ?_⟩
    · simp only [Text.isBlank]
      grind
    · rintro rfl
      exact absurd bounds.1 (by decide)
  have signed : ∀ c ∈ sign s, Text.isBlank c = false ∧ c ≠ ',' := by
    fun_cases sign s <;> simp [Text.isBlank]
  intro c member
  rw [← sign_append_unsigned s, List.mem_append] at member
  rcases member with member | member
  · exact signed c member
  · exact digit c (numeral.2 c member)

end Numeral

end Rover
