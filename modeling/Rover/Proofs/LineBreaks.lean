import Mathlib.Data.List.DropRight
import Rover.Proofs.Cutting
import Rover.Proofs.Mistakes
import Rover.Text.Lines

namespace Rover

namespace Text

theorem trimEnd_append {drop : Char → Bool} {v : Text} (dropped : ∀ c ∈ v, drop c = true)
    (s : Text) : trimEnd drop (s ++ v) = trimEnd drop s := by
  unfold trimEnd
  rw [List.reverse_append, List.dropWhile_append_of_pos (by simpa using dropped)]

theorem trimEnd_trimEnd (drop : Char → Bool) (s : Text) :
    trimEnd drop (trimEnd drop s) = trimEnd drop s := by
  unfold trimEnd
  rw [List.reverse_reverse, List.dropWhile_idempotent]

theorem trim_append {v : Text} (blank : ∀ c ∈ v, isBlank c = true) (s : Text) :
    trim (s ++ v) = trim s := by
  unfold trim
  rw [List.dropWhile_append]
  split
  · rename_i empty
    rw [List.isEmpty_iff.1 empty, List.dropWhile_eq_nil_iff.2 blank]
  · exact trimEnd_append blank _

theorem exists_chomp (s : Text) : ∃ v, (∀ c ∈ v, isBlank c = true) ∧ s = chomp s ++ v := by
  obtain ⟨v, ended, whole⟩ := exists_trimEnd (fun c => c = '\r' || c = '\n') s
  refine ⟨v, fun c member => ?_, whole⟩
  have ended := ended c member
  simp only [Bool.or_eq_true, decide_eq_true_eq] at ended
  rcases ended with rfl | rfl <;> decide

theorem trim_chomp (s : Text) : trim (chomp s) = trim s := by
  obtain ⟨v, blank, whole⟩ := exists_chomp s
  rw [← trim_append blank (chomp s), ← whole]

theorem chomp_chomp (s : Text) : chomp (chomp s) = chomp s := trimEnd_trimEnd _ s

theorem chomp_cons {c : Char} (noReturn : c ≠ '\r') (noFeed : c ≠ '\n') (s : Text) :
    chomp (c :: s) = c :: chomp s := by
  unfold chomp trimEnd
  rw [List.reverse_cons, List.dropWhile_append]
  split
  · rename_i empty
    simp [List.isEmpty_iff.1 empty, noReturn, noFeed]
  · simp

theorem chomp_eq_self {s : Text} (clear : ∀ c ∈ s, isBreak c = false) : chomp s = s := by
  induction s with
  | nil => rfl
  | cons c rest ih =>
      have first := clear c List.mem_cons_self
      rw [chomp_cons, ih fun d member => clear d (List.mem_cons_of_mem c member)]
      · rintro rfl
        exact absurd first (by decide)
      · rintro rfl
        exact absurd first (by decide)

theorem mem_extend {α : Type} {a : α} {pieces : List (List α)} {piece : List α}
    (member : piece ∈ extend a pieces) :
    piece = [a] ∨ piece ∈ pieces ∨ ∃ rest ∈ pieces, piece = a :: rest := by
  cases pieces with
  | nil => exact .inl (List.mem_singleton.1 member)
  | cons first others =>
      rcases List.mem_cons.1 member with rfl | later
      · exact .inr (.inr ⟨first, List.mem_cons_self, rfl⟩)
      · exact .inr (.inl (List.mem_cons_of_mem first later))

theorem clear_of_mem_lines {s line : Text} (member : line ∈ lines s) :
    ∀ c ∈ line, isBreak c = false := by
  unfold lines at member
  fun_induction cutLines isBreak '\r' '\n' s generalizing line with
  | case1 => cases member
  | case2 a stop =>
      rw [List.mem_singleton.1 member]
      simp
  | case3 a go =>
      rw [List.mem_singleton.1 member]
      simpa using go
  | case4 a b rest pair ih =>
      rcases List.mem_cons.1 member with rfl | later
      · simp
      · exact ih later
  | case5 a b rest single stop ih =>
      rcases List.mem_cons.1 member with rfl | later
      · simp
      · exact ih later
  | case6 a b rest single go ih =>
      have go : isBreak a = false := by simpa using go
      rcases mem_extend member with rfl | later | ⟨tail, later, rfl⟩
      · simpa using go
      · exact ih later
      · simpa [go] using ih later

theorem map_chomp_extend {c : Char} (noReturn : c ≠ '\r') (noFeed : c ≠ '\n')
    (pieces : List Text) : (extend c pieces).map chomp = extend c (pieces.map chomp) := by
  cases pieces with
  | nil => simp [extend, chomp_cons noReturn noFeed, show chomp [] = [] from rfl]
  | cons first others => simp [extend, chomp_cons noReturn noFeed]

theorem lines_eq_map_chomp {s : Text} (noReturn : '\r' ∉ s)
    (plain : ∀ c ∈ s, isBreak c = true → c = '\n') :
    lines s = (cutAfter '\n' s).map chomp := by
  unfold lines
  fun_induction cutLines isBreak '\r' '\n' s with
  | case1 => rfl
  | case2 a stop =>
      obtain rfl := plain a (by simp) stop
      rfl
  | case3 a go =>
      have noReturn : a ≠ '\r' := fun eq => noReturn (by simp [eq])
      have noFeed : a ≠ '\n' := fun eq => go (by rw [eq]; decide)
      simp [cutAfter, extend, noFeed, chomp_cons noReturn noFeed, show chomp [] = [] from rfl]
  | case4 a b rest pair ih => exact absurd (by simp [pair.1]) noReturn
  | case5 a b rest single stop ih =>
      obtain rfl := plain a List.mem_cons_self stop
      rw [ih (fun member => noReturn (List.mem_cons_of_mem _ member))
        fun c member => plain c (List.mem_cons_of_mem _ member)]
      rfl
  | case6 a b rest single go ih =>
      have first : a ≠ '\r' := fun eq => noReturn (by simp [eq])
      have noFeed : a ≠ '\n' := fun eq => go (by rw [eq]; decide)
      rw [ih (fun member => noReturn (List.mem_cons_of_mem _ member))
        fun c member => plain c (List.mem_cons_of_mem _ member),
        ← map_chomp_extend first noFeed]
      conv_rhs => rw [cutAfter, if_neg noFeed]

theorem mem_uniformBreaks {s : Text} {c : Char} (member : c ∈ uniformBreaks s) :
    c ≠ '\r' ∧ (c = '\n' ∨ c ∈ s) := by
  fun_induction uniformBreaks s with
  | case1 => cases member
  | case2 rest ih =>
      rcases List.mem_cons.1 member with rfl | later
      · exact ⟨by decide, .inl rfl⟩
      · obtain ⟨ne, feed | kept⟩ := ih later
        · exact ⟨ne, .inl feed⟩
        · exact ⟨ne, .inr (List.mem_cons_of_mem _ (List.mem_cons_of_mem _ kept))⟩
  | case3 d rest _ ih =>
      rcases List.mem_cons.1 member with first | later
      · split at first
        · subst first
          exact ⟨by decide, .inl rfl⟩
        · rename_i ne
          subst first
          exact ⟨ne, .inr List.mem_cons_self⟩
      · obtain ⟨ne, feed | kept⟩ := ih later
        · exact ⟨ne, .inl feed⟩
        · exact ⟨ne, .inr (List.mem_cons_of_mem d kept)⟩

def HasOnlyLineEnds (s : Text) : Prop := ∀ c ∈ s, isBreak c = true → c = '\n' ∨ c = '\r'

instance (s : Text) : Decidable (HasOnlyLineEnds s) := List.decidableBAll _ s

theorem lines_uniformBreaks {s : Text} (plain : HasOnlyLineEnds s) :
    lines (uniformBreaks s) = (fileLines s).map chomp := by
  refine lines_eq_map_chomp (fun member => (mem_uniformBreaks member).1 rfl) fun c member stop => ?_
  obtain ⟨ne, feed | kept⟩ := mem_uniformBreaks member
  · exact feed
  · exact (plain c kept stop).resolve_right ne

end Text

theorem Phrase.ofLine_chomp (line : Text) : ofLine (Text.chomp line) = ofLine line := by
  simp only [ofLine, Text.trim_chomp]

namespace Vocabulary

variable (v : Vocabulary)

theorem read_chomp (line : Text) : v.read (Text.chomp line) = v.read line := by
  simp only [read, Phrase.ofLine_chomp]

theorem mistake?_chomp (n : Nat) (line : Text) :
    v.mistake? n (Text.chomp line) = v.mistake? n line := by
  simp only [mistake?, read_chomp, Text.chomp_chomp]

theorem mistakes_map_chomp (n : Nat) (lines : List Text) :
    v.mistakes n (lines.map Text.chomp) = v.mistakes n lines := by
  induction lines generalizing n with
  | nil => rfl
  | cons line rest ih => rw [List.map_cons, mistakes, mistakes, mistake?_chomp, ih]

end Vocabulary

end Rover
