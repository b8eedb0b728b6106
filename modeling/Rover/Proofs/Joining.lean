import Mathlib.Data.List.Infix
import Rover.Proofs.Cuts

namespace Rover.Text

/-- How a line ends in a program given in one argument: with a line feed, or with one written as a
backslash and an `n`. -/
inductive Terminator where
  | feed
  | written
  deriving DecidableEq, Repr

def Terminator.text : Terminator → Text
  | .feed => ['\n']
  | .written => ['\\', 'n']

structure IsUnended (s : Text) : Prop where
  unbroken : ∀ c ∈ s, isBreak c = false
  unwritten : ¬ Terminator.written.text <:+: s

instance (s : Text) : Decidable s.IsUnended :=
  @decidable_of_iff _ ((∀ c ∈ s, isBreak c = false) ∧ ¬ Terminator.written.text <:+: s)
    ⟨fun h => ⟨h.1, h.2⟩, fun h => ⟨h.unbroken, h.unwritten⟩⟩
    (@instDecidableAnd _ _ (List.decidableBAll _ s) inferInstance)

def joined (pieces : List (Text × Terminator)) : Text := pieces.flatMap fun p => p.1 ++ p.2.text

variable {s rest : Text} {c : Char}

theorem unescapeBreaks_cons (single : c = '\\' → rest.head? ≠ some 'n') :
    unescapeBreaks (c :: rest) = c :: unescapeBreaks rest := by
  rw [unescapeBreaks]
  rintro tail rfl rfl
  exact single rfl rfl

theorem head?_append_terminator (apart : s.head? ≠ some 'n') (t : Terminator) (rest : Text) :
    (s ++ (t.text ++ rest)).head? ≠ some 'n' := by
  cases s with
  | nil => cases t <;> simp [Terminator.text]
  | cons c s => exact apart

theorem unescapeBreaks_append (s : Text) (t : Terminator) (rest : Text) :
    unescapeBreaks (s ++ (t.text ++ rest)) = unescapeBreaks s ++ '\n' :: unescapeBreaks rest := by
  fun_induction unescapeBreaks s with
  | case1 =>
      cases t with
      | feed => exact unescapeBreaks_cons (by simp)
      | written => rfl
  | case2 s ih =>
      rw [List.cons_append, List.cons_append, unescapeBreaks, ih]
      rfl
  | case3 c s single ih =>
      have single : c = '\\' → s.head? ≠ some 'n' := by
        rintro rfl feed
        obtain ⟨tail, rfl⟩ := List.head?_eq_some_iff.1 feed
        exact single tail rfl rfl
      rw [List.cons_append,
        unescapeBreaks_cons fun slash => head?_append_terminator (single slash) t rest, ih]
      rfl

theorem unescapeBreaks_of_unwritten (unwritten : ¬ Terminator.written.text <:+: s) :
    unescapeBreaks s = s := by
  fun_induction unescapeBreaks s with
  | case1 => rfl
  | case2 s ih => exact absurd (List.prefix_append ['\\', 'n'] s).isInfix unwritten
  | case3 c s single ih =>
      rw [ih fun found => unwritten (found.trans (List.suffix_cons c s).isInfix)]

theorem head?_of_unescapeBreaks (found : (unescapeBreaks s).head? = some 'n') :
    s.head? = some 'n' := by
  fun_induction unescapeBreaks s with
  | case1 => exact found
  | case2 s ih => cases found
  | case3 c s single ih => exact found

theorem not_written_unescapeBreaks (s : Text) :
    ¬ Terminator.written.text <:+: unescapeBreaks s := by
  fun_induction unescapeBreaks s with
  | case1 => simp [Terminator.text]
  | case2 s ih =>
      intro found
      rcases List.infix_cons_iff.1 found with first | later
      · exact absurd (List.cons_prefix_cons.1 first).1 (by decide)
      · exact ih later
  | case3 c s single ih =>
      intro found
      rcases List.infix_cons_iff.1 found with first | later
      · obtain ⟨rfl, next⟩ := List.cons_prefix_cons.1 first
        obtain ⟨tail, next⟩ := next
        have read : (unescapeBreaks s).head? = some 'n' := by rw [← next]; rfl
        obtain ⟨others, rfl⟩ := List.head?_eq_some_iff.1 (head?_of_unescapeBreaks read)
        exact single others rfl rfl
      · exact ih later

theorem inlineLines_unescapeBreaks (s : Text) :
    inlineLines (unescapeBreaks s) = inlineLines s := by
  rw [inlineLines, unescapeBreaks_of_unwritten (not_written_unescapeBreaks s)]
  rfl

theorem lines_append_feed {line : Text} (unbroken : ∀ c ∈ line, isBreak c = false) (rest : Text) :
    lines (line ++ '\n' :: rest) = line :: lines rest := by
  have going : ∀ c ∈ line, isBreak c = false ∧ c ≠ '\r' := by
    intro c member
    refine ⟨unbroken c member, ?_⟩
    rintro rfl
    exact absurd (unbroken _ member) (by decide)
  rw [lines, cutLines_append going, cutLines_stop (by decide) (by simp)]
  cases line with
  | nil => rfl
  | cons c line => rw [extendAll_eq (List.cons_ne_nil c line)]; simp [lines]

theorem isInfix_of_mem_lines (s : Text) :
    (∀ first, (lines s).head? = some first → first <+: s) ∧ ∀ line ∈ lines s, line <:+: s := by
  unfold lines
  fun_induction cutLines isBreak '\r' '\n' s with
  | case1 => simp
  | case2 a stop => simp
  | case3 a go => simp
  | case4 a b rest pair ih =>
      refine ⟨by simp, List.forall_mem_cons.2 ⟨List.nil_infix, fun line member => ?_⟩⟩
      exact (ih.2 line member).trans (List.suffix_append [a, b] rest).isInfix
  | case5 a b rest single stop ih =>
      refine ⟨by simp, List.forall_mem_cons.2 ⟨List.nil_infix, fun line member => ?_⟩⟩
      exact (ih.2 line member).trans (List.suffix_cons a _).isInfix
  | case6 a b rest single go ih =>
      obtain ⟨first, others⟩ := ih
      cases pieces : cutLines isBreak '\r' '\n' (b :: rest) with
      | nil =>
          have start : [a] <+: a :: b :: rest := List.prefix_append [a] (b :: rest)
          exact ⟨by simp [extend], by simpa [extend] using start.isInfix⟩
      | cons piece pieces =>
          rw [pieces] at first others
          have start : a :: piece <+: a :: b :: rest :=
            List.cons_prefix_cons.2 ⟨rfl, first piece rfl⟩
          refine ⟨by simpa [extend] using start, ?_⟩
          refine List.forall_mem_cons.2 ⟨start.isInfix, fun line member => ?_⟩
          exact (others line (List.mem_cons_of_mem piece member)).trans
            (List.suffix_cons a _).isInfix

theorem isUnended_of_mem_inlineLines {line : Text} (member : line ∈ inlineLines s) :
    line.IsUnended where
  unbroken := clear_of_mem_lines member
  unwritten found :=
    not_written_unescapeBreaks s (found.trans ((isInfix_of_mem_lines _).2 line member))

theorem joined_cons (p : Text × Terminator) (pieces : List (Text × Terminator)) (rest : Text) :
    joined (p :: pieces) ++ rest = p.1 ++ (p.2.text ++ (joined pieces ++ rest)) := by
  simp [joined]

theorem inlineLines_of_unended {pieces : List (Text × Terminator)}
    (unended : ∀ p ∈ pieces, p.1.IsUnended) :
    inlineLines (joined pieces) = pieces.map Prod.fst := by
  induction pieces with
  | nil => rfl
  | cons p pieces ih =>
      obtain ⟨first, others⟩ := List.forall_mem_cons.1 unended
      rw [← List.append_nil (joined (p :: pieces)), joined_cons, List.append_nil, inlineLines,
        unescapeBreaks_append, unescapeBreaks_of_unwritten first.unwritten,
        lines_append_feed first.unbroken, List.map_cons, ← ih others, inlineLines]

theorem unescapeBreaks_joined (pieces : List (Text × Terminator)) (rest : Text) :
    unescapeBreaks (joined pieces ++ rest) =
      unescapeBreaks (joined (pieces.map fun p => (p.1, .feed)) ++ rest) := by
  induction pieces with
  | nil => rfl
  | cons p pieces ih =>
      rw [List.map_cons, joined_cons, joined_cons, unescapeBreaks_append, unescapeBreaks_append, ih]

/-- Pieces joined with ends of either kind come apart again, empty ones too. No line of a program
has an end in it, and a written end does what a line feed in its place does. -/
theorem inlineLines_joined :
    (∀ pieces : List (Text × Terminator), (∀ p ∈ pieces, p.1.IsUnended) →
      inlineLines (joined pieces) = pieces.map Prod.fst) ∧
    (∀ s : Text, (∀ line ∈ inlineLines s, line.IsUnended) ∧
      inlineLines (unescapeBreaks s) = inlineLines s) ∧
    ∀ (pieces : List (Text × Terminator)) (rest : Text),
      inlineLines (joined pieces ++ rest) =
        inlineLines (joined (pieces.map fun p => (p.1, .feed)) ++ rest) := by
  refine ⟨fun pieces => inlineLines_of_unended, fun s => ⟨?_, inlineLines_unescapeBreaks s⟩, ?_⟩
  · exact fun line => isUnended_of_mem_inlineLines
  · intro pieces rest
    rw [inlineLines, unescapeBreaks_joined, inlineLines]

theorem inlineLines_joined_backslash :
    ∃ pieces : List (Text × Terminator),
      (∀ p ∈ pieces, p.1.IsUnended) ∧
      joined pieces = "\\\nn\\\\n\\n".toList ∧
      inlineLines (joined pieces) = ["\\".toList, "n\\".toList, []] := by
  let pieces : List (Text × Terminator) :=
    [("\\".toList, .feed), ("n\\".toList, .written), ([], .written)]
  have unended : ∀ p ∈ pieces, p.1.IsUnended := by decide
  exact ⟨pieces, unended, by decide, inlineLines_joined.1 pieces unended⟩

end Rover.Text
