import Rover.Proofs.LineBreaks

namespace Rover

namespace Text

theorem clear_head?_dropWhile (p : Char → Bool) (s : Text) :
    ∀ c ∈ (s.dropWhile p).head?, p c = false := by
  intro c first
  have stop := List.head?_dropWhile_not p s
  rw [first] at stop
  exact stop

theorem isTrimmed_trim (s : Text) : IsTrimmed (trim s) where
  first := by
    obtain ⟨v, -, back⟩ := exists_trimEnd isBlank (s.dropWhile isBlank)
    intro c first
    apply clear_head?_dropWhile isBlank s c
    rw [back]
    exact List.mem_head?_append_of_mem_head? first
  last := by
    rw [trim, trimEnd, List.getLast?_reverse]
    exact clear_head?_dropWhile isBlank _

theorem not_mem_of_mem_splitAt {sep : Char} {s piece : Text} (member : piece ∈ splitAt sep s) :
    sep ∉ piece := by
  induction s generalizing piece with
  | nil => simp_all [splitAt]
  | cons c rest ih =>
      simp only [splitAt] at member
      split at member
      · rcases List.mem_cons.1 member with rfl | later
        · exact List.not_mem_nil
        · exact ih later
      · rename_i ne
        rcases mem_extend member with rfl | later | ⟨tail, later, rfl⟩
        · simpa using Ne.symm ne
        · exact ih later
        · simpa [Ne.symm ne] using ih later

section Joined

variable {sep : Char} {p : Char → Prop}

theorem intercalate_eq_nil_iff {pieces : List Text} :
    [sep].intercalate pieces = [] ↔ pieces = [] ∨ pieces = [[]] := by
  cases pieces with
  | nil => simp
  | cons first others => cases others <;> simp

theorem forall_head?_intercalate (parts : p sep) (pieces : List Text) :
    (∀ c ∈ ([sep].intercalate pieces).head?, p c) ↔
      ∀ piece ∈ pieces.head?, ∀ c ∈ piece.head?, p c := by
  cases pieces with
  | nil => simp
  | cons first others =>
      cases others with
      | nil => simp
      | cons second others => cases first <;> simp [parts]

theorem forall_getLast?_intercalate (parts : p sep) (pieces : List Text) :
    (∀ c ∈ ([sep].intercalate pieces).getLast?, p c) ↔
      ∀ piece ∈ pieces.getLast?, ∀ c ∈ piece.getLast?, p c := by
  induction pieces with
  | nil => simp
  | cons first others ih =>
      cases others with
      | nil => simp
      | cons second others =>
          rw [List.getLast?_cons_cons, ← ih, List.intercalate_cons_cons, List.append_assoc,
            List.singleton_append, List.getLast?_append, List.getLast?_cons]
          cases ([sep].intercalate (second :: others)).getLast? <;> simp [parts]

end Joined

end Text

namespace Phrase

open Text

structure IsCut (p : Phrase) : Prop where
  solid : ∀ c ∈ p.keyword, isBlank c = false
  parted : ∀ a ∈ p.arguments, ',' ∉ a
  told : p.arguments ≠ [[]]
  first : ∀ a ∈ p.arguments.head?, ∀ c ∈ a.head?, isBlank c = false
  last : ∀ a ∈ p.arguments.getLast?, ∀ c ∈ a.getLast?, isBlank c = false

variable {p : Phrase} {line : Text}

theorem IsCut.of_bare {keyword : Text} (solid : ∀ c ∈ keyword, isBlank c = false) :
    IsCut ⟨keyword, []⟩ where
  solid := solid
  parted := by simp
  told := by simp
  first := by simp
  last := by simp

theorem isTrimmed_arguments_iff (arguments : List Text) :
    IsTrimmed ([','].intercalate arguments) ↔
      (∀ a ∈ arguments.head?, ∀ c ∈ a.head?, isBlank c = false) ∧
        ∀ a ∈ arguments.getLast?, ∀ c ∈ a.getLast?, isBlank c = false := by
  have comma : isBlank ',' = false := by decide
  rw [← forall_head?_intercalate (p := (isBlank · = false)) comma,
    ← forall_getLast?_intercalate (p := (isBlank · = false)) comma]
  exact ⟨fun trimmed => ⟨trimmed.first, trimmed.last⟩, fun ends => ⟨ends.1, ends.2⟩⟩

theorem ofLine_cases (line : Text) :
    (∀ c ∈ trim line, isBlank c = false) ∧ ofLine line = ⟨trim line, []⟩ ∨
      ∃ keyword w rest, (∀ c ∈ keyword, isBlank c = false) ∧ (∀ c ∈ w, isBlank c = true) ∧
        w ≠ [] ∧ IsTrimmed rest ∧ rest ≠ [] ∧ trim line = keyword ++ (w ++ rest) ∧
        ofLine line = ⟨keyword, splitAt ',' rest⟩ := by
  have trimmed := isTrimmed_trim line
  unfold ofLine
  generalize trim line = body at trimmed
  dsimp only
  have whole := List.takeWhile_append_dropWhile (p := (!isBlank ·)) (l := body)
  have solid : ∀ c ∈ body.takeWhile (!isBlank ·), isBlank c = false := by
    intro c member
    simpa using List.mem_takeWhile_imp member
  split
  · rename_i none
    refine .inl ⟨?_, rfl⟩
    rw [none, List.append_nil] at whole
    rwa [whole] at solid
  · rename_i some
    have stop := clear_head?_dropWhile (!isBlank ·) body
    generalize body.dropWhile (!isBlank ·) = later at some stop whole
    have split := List.takeWhile_append_dropWhile (p := isBlank) (l := later)
    have between : ∀ c ∈ later.takeWhile isBlank, isBlank c = true :=
      fun c => List.mem_takeWhile_imp
    have w_ne : later.takeWhile isBlank ≠ [] := by
      obtain ⟨b, tail, rfl⟩ := List.exists_cons_of_ne_nil some
      have blank : isBlank b = true := by simpa using stop b rfl
      rw [List.takeWhile_cons_of_pos blank]
      exact List.cons_ne_nil _ _
    have last : ∀ c ∈ later.getLast?, isBlank c = false := by
      intro c member
      apply trimmed.last
      rw [← whole]
      exact List.mem_getLast?_append_of_mem_getLast? member
    have rest_ne : later.dropWhile isBlank ≠ [] := by
      intro empty
      rw [empty, List.append_nil] at split
      rw [split] at between
      have clear := last _ (List.getLast?_eq_some_getLast some)
      rw [between _ (List.getLast_mem some)] at clear
      cases clear
    refine .inr ⟨_, _, _, solid, between, w_ne, ⟨clear_head?_dropWhile isBlank later, ?_⟩, rest_ne,
      ?_, rfl⟩
    · intro c member
      apply last
      rw [← split]
      exact List.mem_getLast?_append_of_mem_getLast? member
    · rw [split, whole]

theorem isCut_ofLine (line : Text) : (ofLine line).IsCut := by
  obtain ⟨solid, eq⟩ | ⟨keyword, w, rest, solid, -, -, trimmed, rest_ne, -, eq⟩ := ofLine_cases line
  · rw [eq]
    exact .of_bare solid
  · have joined : [','].intercalate (splitAt ',' rest) = rest := by
      rw [splitAt_eq_splitOn, List.intercalate_splitOn]
    have ends := (isTrimmed_arguments_iff (splitAt ',' rest)).1 (by rwa [joined])
    rw [eq]
    refine ⟨solid, fun a => not_mem_of_mem_splitAt, ?_, ends.1, ends.2⟩
    intro alone
    apply rest_ne
    rw [← joined]
    exact intercalate_eq_nil_iff.2 (.inr alone)

theorem ofLine_of_isCut (cut : p.IsCut) (keyword_ne : p.keyword ≠ []) {u w v : Text}
    (before : ∀ c ∈ u, isBlank c = true) (between : ∀ c ∈ w, isBlank c = true)
    (behind : ∀ c ∈ v, isBlank c = true) (apart : p.arguments ≠ [] → w ≠ []) :
    ofLine (u ++ (p.keyword ++ (w ++ [','].intercalate p.arguments)) ++ v) = p := by
  obtain ⟨keyword, arguments⟩ := p
  by_cases none : arguments = []
  · subst none
    have blanks : ∀ c ∈ w ++ v, isBlank c = true := fun c member =>
      (List.mem_append.1 member).elim (between c) (behind c)
    have bare := ofLine_bare before cut.solid blanks
    simpa using bare
  · have trimmed := (isTrimmed_arguments_iff arguments).2 ⟨cut.first, cut.last⟩
    have rest_ne : [','].intercalate arguments ≠ [] := fun empty =>
      (intercalate_eq_nil_iff.1 empty).elim none cut.told
    rw [ofLine_padded before cut.solid keyword_ne between (apart none) trimmed rest_ne behind,
      splitAt_eq_splitOn, List.splitOn_intercalate ',' cut.parted none]

/-- A line loses nothing but blanks when it is cut, and what can be cut out of a line is cut out of
every line that joins it, whatever the blanks. -/
theorem ofLine_cut_and_joined :
    (∀ line, (ofLine line).IsCut ∧
      ((ofLine line).arguments = [] ↔ ∀ c ∈ trim line, isBlank c = false) ∧
      (∃ u v, (∀ c ∈ u, isBlank c = true) ∧ (∀ c ∈ v, isBlank c = true) ∧
        line = u ++ trim line ++ v) ∧
      ∃ w, (∀ c ∈ w, isBlank c = true) ∧ (w = [] ↔ (ofLine line).arguments = []) ∧
        trim line =
          (ofLine line).keyword ++ (w ++ [','].intercalate (ofLine line).arguments)) ∧
    ∀ p : Phrase, p.IsCut → p.keyword ≠ [] → ∀ u w v : Text, (∀ c ∈ u, isBlank c = true) →
      (∀ c ∈ w, isBlank c = true) → (∀ c ∈ v, isBlank c = true) → (p.arguments ≠ [] → w ≠ []) →
      ofLine (u ++ (p.keyword ++ (w ++ [','].intercalate p.arguments)) ++ v) = p := by
  refine ⟨fun line => ⟨isCut_ofLine line, ?_, exists_trim line, ?_⟩, ?_⟩
  · obtain ⟨solid, eq⟩ | ⟨keyword, w, rest, -, between, w_ne, -, -, whole, eq⟩ := ofLine_cases line
    · simpa [eq] using solid
    · obtain ⟨b, blanks, rfl⟩ := List.exists_cons_of_ne_nil w_ne
      have blank := between b List.mem_cons_self
      simp only [eq, splitAt_ne_nil, whole, false_iff]
      intro clear
      have clear := clear b (by simp)
      rw [blank] at clear
      cases clear
  · obtain ⟨-, eq⟩ | ⟨keyword, w, rest, -, between, w_ne, -, -, whole, eq⟩ := ofLine_cases line
    · refine ⟨[], by simp, ?_, ?_⟩
      · simp [eq]
      · simp [eq]
    · refine ⟨w, between, ?_, ?_⟩
      · simp [eq, w_ne, splitAt_ne_nil]
      · rw [eq, splitAt_eq_splitOn, List.intercalate_splitOn, whole]
  · intro p cut keyword_ne u w v before between behind apart
    exact ofLine_of_isCut cut keyword_ne before between behind apart

theorem ofLine_cut_and_joined_inner_blanks :
    ∃ (p : Phrase) (line : Text), p = ⟨"PIT".toList, ["3 ".toList, " 4".toList, []]⟩ ∧ p.IsCut ∧
      line = "\t PIT\u3000 3 , 4,\r\n".toList ∧ ofLine line = p ∧ (ofLine line).IsCut ∧
      trim line = "PIT\u3000 3 , 4,".toList := by
  let p : Phrase := ⟨"PIT".toList, ["3 ".toList, " 4".toList, []]⟩
  have cut : p.IsCut := by
    refine ⟨?_, by decide, by decide, ?_, ?_⟩
    · have solid : "PIT".toList.all (!isBlank ·) = true := by decide
      simpa [p] using solid
    · rintro a ⟨⟩ c ⟨⟩
      decide
    · rintro a ⟨⟩ c ⟨⟩
  obtain ⟨of_line, joined⟩ := ofLine_cut_and_joined
  have back := joined p cut (by decide) "\t ".toList "\u3000 ".toList "\r\n".toList
    (List.all_eq_true.1 (by decide)) (List.all_eq_true.1 (by decide))
    (List.all_eq_true.1 (by decide)) (by decide)
  exact ⟨p, _, rfl, cut, rfl, back, (of_line _).1, by decide⟩

end Phrase

end Rover
