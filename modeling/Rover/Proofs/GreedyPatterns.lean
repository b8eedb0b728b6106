import Rover.Proofs.PatternLanguage

namespace Rover.Pattern

variable {ignoreCase : Bool} {p q : Pattern} {s t : Text} {n : Nat}

/-- The search prefers the longer matches and tries none twice. -/
def IsGreedy (ignoreCase : Bool) (p : Pattern) : Prop :=
  ∀ s, (lengths ignoreCase p s).Pairwise (· > ·)

theorem IsGreedy.le_of_head? (greedy : p.IsGreedy ignoreCase)
    (first : (lengths ignoreCase p s).head? = some n) {m : Nat}
    (member : m ∈ lengths ignoreCase p s) : m ≤ n := by
  obtain ⟨others, list⟩ := List.head?_eq_some_iff.1 first
  have falling := greedy s
  rw [list] at falling member
  rcases List.mem_cons.1 member with rfl | later
  · exact Nat.le_refl m
  · exact Nat.le_of_lt ((List.pairwise_cons.1 falling).1 m later)

theorem isGreedy_empty : Pattern.empty.IsGreedy ignoreCase :=
  fun _ => List.pairwise_singleton _ _

theorem lengths_oneOf (ignoreCase : Bool) (ranges : List (Char × Char)) (s : Text) :
    lengths ignoreCase (.oneOf ranges) s = [] ∨ lengths ignoreCase (.oneOf ranges) s = [1] := by
  cases s with
  | nil => exact .inl rfl
  | cons c rest =>
      simp only [lengths]
      split
      · exact .inr rfl
      · exact .inl rfl

theorem IsGreedy.row (first : p.IsGreedy ignoreCase) (second : q.IsGreedy ignoreCase)
    (farther : ∀ s m n, m ∈ lengths ignoreCase p s → n ∈ lengths ignoreCase p s → n < m →
      ∀ j ∈ lengths ignoreCase q (s.drop m), ∀ k ∈ lengths ignoreCase q (s.drop n),
        n + k < m + j) :
    (Pattern.row p q).IsGreedy ignoreCase := by
  intro s
  simp only [lengths]
  rw [List.pairwise_flatMap]
  constructor
  · intro m _
    exact List.pairwise_map.2 ((second (s.drop m)).imp fun more => Nat.add_lt_add_left more m)
  · refine (first s).imp_of_mem fun {m n} hm hn more => ?_
    intro i hi k hk
    obtain ⟨j, hj, rfl⟩ := List.mem_map.1 hi
    obtain ⟨l, hl, rfl⟩ := List.mem_map.1 hk
    exact farther s m n hm hn more j hj l hl

theorem pairwise_rounds {step : Text → List Nat} (single : ∀ s, step s = [] ∨ step s = [1])
    (fuel least : Nat) (most : Option Nat) (s : Text) :
    (rounds step fuel least most s).Pairwise (· > ·) := by
  induction fuel generalizing least most s with
  | zero => exact .nil
  | succ fuel ih =>
      have last : (if least = 0 then [0] else []).Pairwise (· > ·) := by
        split <;> simp
      rw [rounds]
      split
      · exact last
      · rcases single s with none | one
        · rw [none]
          exact last
        · rw [one, List.flatMap_singleton, if_neg (by simp), List.pairwise_append,
            List.pairwise_map]
          refine ⟨(ih _ _ _).imp fun more => Nat.add_lt_add_left more 1, last, fun i hi k hk => ?_⟩
          obtain ⟨j, -, rfl⟩ := List.mem_map.1 hi
          obtain rfl : k = 0 := by
            split at hk
            · exact List.mem_singleton.1 hk
            · cases hk
          omega

theorem isGreedy_run (ranges : List (Char × Char)) (least : Nat) (most : Option Nat) :
    (Pattern.times (.oneOf ranges) least most).IsGreedy ignoreCase :=
  fun s => pairwise_rounds (lengths_oneOf ignoreCase ranges) _ least most s

def literal (w : Text) : Pattern := w.foldr (fun c p => .row (.oneOf [(c, c)]) p) .empty

theorem inRange_self_iff {c d : Char} : inRange false d (c, c) = true ↔ c = d := by
  simp only [inRange, Bool.false_and, Bool.or_false, Bool.and_eq_true, decide_eq_true_eq]
  exact ⟨fun h => Char.le_antisymm h.1 h.2, fun h => h ▸ ⟨Char.le_refl _, Char.le_refl _⟩⟩

theorem lengths_literal (w s : Text) :
    lengths false (literal w) s = if w <+: s then [w.length] else [] := by
  induction w generalizing s with
  | nil => simp [literal, lengths]
  | cons c w ih =>
      change lengths false (.row (.oneOf [(c, c)]) (literal w)) s = _
      cases s with
      | nil => simp [lengths]
      | cons d rest =>
          simp only [lengths, List.any_cons, List.any_nil, Bool.or_false, inRange_self_iff,
            List.cons_prefix_cons]
          by_cases same : c = d
          · by_cases start : w <+: rest
            · simp [same, ih, start, Nat.add_comm]
            · simp [same, ih, start]
          · simp [same]

end Rover.Pattern
