import Mathlib.Data.List.Infix
import Rover.Pattern

namespace Rover.Pattern

variable {ignoreCase : Bool} {p q : Pattern} {s t : Text} {n : Nat}

/-- The texts of a pattern, whichever of them a search would prefer. -/
inductive Matches (ignoreCase : Bool) : Pattern → Text → Prop where
  | empty : Matches ignoreCase .empty []
  | oneOf {ranges : List (Char × Char)} {c : Char}
      (inside : ranges.any (inRange ignoreCase c) = true) : Matches ignoreCase (.oneOf ranges) [c]
  | row {p q : Pattern} {s t : Text} (first : Matches ignoreCase p s)
      (second : Matches ignoreCase q t) : Matches ignoreCase (.row p q) (s ++ t)
  | left {p q : Pattern} {s : Text} (first : Matches ignoreCase p s) :
      Matches ignoreCase (.choice p q) s
  | right {p q : Pattern} {s : Text} (second : Matches ignoreCase q s) :
      Matches ignoreCase (.choice p q) s
  | stop {p : Pattern} {most : Option Nat} : Matches ignoreCase (.times p 0 most) []
  | again {p : Pattern} {least : Nat} {most : Option Nat} {s t : Text} (more : most ≠ some 0)
      (first : Matches ignoreCase p s)
      (others : Matches ignoreCase (.times p (least - 1) (most.map (· - 1))) t) :
      Matches ignoreCase (.times p least most) (s ++ t)

theorem matches_empty_iff : Matches ignoreCase .empty t ↔ t = [] := by
  constructor
  · rintro ⟨⟩
    rfl
  · rintro rfl
    exact .empty

theorem matches_oneOf_iff {ranges : List (Char × Char)} :
    Matches ignoreCase (.oneOf ranges) t ↔
      ∃ c, t = [c] ∧ ranges.any (inRange ignoreCase c) = true := by
  constructor
  · rintro ⟨⟩
    exact ⟨_, rfl, ‹_›⟩
  · rintro ⟨c, rfl, inside⟩
    exact .oneOf inside

theorem matches_row_iff :
    Matches ignoreCase (.row p q) t ↔
      ∃ u v, t = u ++ v ∧ Matches ignoreCase p u ∧ Matches ignoreCase q v := by
  constructor
  · rintro ⟨⟩
    exact ⟨_, _, rfl, ‹_›, ‹_›⟩
  · rintro ⟨u, v, rfl, first, second⟩
    exact .row first second

theorem matches_times_iff {least : Nat} {most : Option Nat} :
    Matches ignoreCase (.times p least most) t ↔
      least = 0 ∧ t = [] ∨ most ≠ some 0 ∧ ∃ u v, t = u ++ v ∧ Matches ignoreCase p u ∧
        Matches ignoreCase (.times p (least - 1) (most.map (· - 1))) v := by
  constructor
  · rintro ⟨⟩
    · exact .inl ⟨rfl, rfl⟩
    · exact .inr ⟨‹_›, _, _, rfl, ‹_›, ‹_›⟩
  · rintro (⟨rfl, rfl⟩ | ⟨more, u, v, rfl, first, others⟩)
    · exact .stop
    · exact .again more first others

theorem matches_optional_iff :
    Matches ignoreCase (.times p 0 (some 1)) t ↔ t = [] ∨ Matches ignoreCase p t := by
  have spent {v : Text} : Matches ignoreCase (.times p 0 (some 0)) v ↔ v = [] := by
    rw [matches_times_iff]
    simp
  rw [matches_times_iff]
  simp only [Option.map_some, Nat.sub_self, spent]
  simp

theorem matches_run_iff {ranges : List (Char × Char)} {least : Nat} :
    Matches ignoreCase (.times (.oneOf ranges) least none) t ↔
      least ≤ t.length ∧ ∀ c ∈ t, ranges.any (inRange ignoreCase c) = true := by
  induction t generalizing least with
  | nil =>
      rw [matches_times_iff]
      simp [matches_oneOf_iff]
  | cons c rest ih =>
      rw [matches_times_iff]
      simp only [matches_oneOf_iff, List.length_cons, List.forall_mem_cons]
      constructor
      · rintro (⟨-, nil⟩ | ⟨-, u, v, split, ⟨d, rfl, inside⟩, others⟩)
        · cases nil
        · obtain ⟨rfl, rfl⟩ := List.cons.inj split
          obtain ⟨enough, others⟩ := ih.1 others
          exact ⟨by omega, inside, others⟩
      · rintro ⟨enough, inside, others⟩
        exact .inr ⟨nofun, [c], rest, rfl, ⟨c, rfl, inside⟩, ih.2 ⟨by omega, others⟩⟩

section Rounds

variable {step : Text → List Nat} {fuel least : Nat} {most : Option Nat}

theorem mem_rounds_succ :
    n ∈ rounds step (fuel + 1) least most s ↔
      (most ≠ some 0 ∧ ∃ m ∈ step s, ¬ (m = 0 ∧ least = 0) ∧
        ∃ k ∈ rounds step fuel (least - 1) (most.map (· - 1)) (s.drop m), m + k = n) ∨
      least = 0 ∧ n = 0 := by
  have last : (n ∈ if least = 0 then [0] else []) ↔ least = 0 ∧ n = 0 := by
    split <;> simp [*]
  rw [rounds, List.mem_append, last]
  refine or_congr_left ?_
  split
  · simp [*]
  · rename_i more
    simp only [List.mem_flatMap, more, ne_eq, not_false_eq_true, true_and]
    refine exists_congr fun m => and_congr_right fun _ => ?_
    split
    · rename_i idle
      simp only [Bool.and_eq_true, decide_eq_true_eq] at idle
      simp [idle]
    · rename_i busy
      simp only [Bool.and_eq_true, decide_eq_true_eq] at busy
      simp [busy]

theorem rounds_subset :
    rounds step fuel least (most.map (· - 1)) s ⊆ rounds step fuel least most s := by
  induction fuel generalizing least most s with
  | zero => exact List.Subset.refl _
  | succ fuel ih =>
      intro n member
      rcases mem_rounds_succ.1 member with ⟨more, m, step, busy, k, rest, sum⟩ | done
      · refine mem_rounds_succ.2 (.inl ⟨?_, m, step, busy, k, ih rest, sum⟩)
        rintro rfl
        exact more rfl
      · exact mem_rounds_succ.2 (.inr done)

end Rounds

theorem exists_of_mem_rounds {fuel least : Nat} {most : Option Nat}
    (sound : ∀ {s n}, n ∈ lengths ignoreCase p s →
      ∃ t, t <+: s ∧ t.length = n ∧ Matches ignoreCase p t)
    (member : n ∈ rounds (lengths ignoreCase p) fuel least most s) :
    ∃ t, t <+: s ∧ t.length = n ∧ Matches ignoreCase (.times p least most) t := by
  induction fuel generalizing least most s n with
  | zero => cases member
  | succ fuel ih =>
      rcases mem_rounds_succ.1 member with ⟨more, m, step, -, k, rest, rfl⟩ | ⟨rfl, rfl⟩
      · obtain ⟨t, ⟨after, rfl⟩, rfl, first⟩ := sound step
        rw [List.drop_left] at rest
        obtain ⟨u, start, rfl, others⟩ := ih rest
        exact ⟨t ++ u, (List.prefix_append_right_inj t).2 start, List.length_append,
          .again more first others⟩
      · exact ⟨[], List.nil_prefix, rfl, .stop⟩

theorem mem_rounds_of_matches
    (complete : ∀ {s t}, t <+: s → Matches ignoreCase p t → t.length ∈ lengths ignoreCase p s)
    {least fuel : Nat} {most : Option Nat} (found : Matches ignoreCase (.times p least most) t)
    (start : t <+: s) (enough : s.length + least < fuel) :
    t.length ∈ rounds (lengths ignoreCase p) fuel least most s := by
  generalize repeated : Pattern.times p least most = r at found
  induction found generalizing least most s fuel with
  | stop =>
      cases repeated
      obtain ⟨fuel, rfl⟩ : ∃ k, fuel = k + 1 := ⟨fuel - 1, by omega⟩
      exact mem_rounds_succ.2 (.inr ⟨rfl, rfl⟩)
  | @again _ _ _ u v more first others _ ih =>
      obtain ⟨rfl, rfl, rfl⟩ := Pattern.times.inj repeated
      obtain ⟨fuel, rfl⟩ : ∃ k, fuel = k + 1 := ⟨fuel - 1, by omega⟩
      by_cases idle : u.length = 0 ∧ least = 0
      · -- a round that takes nothing is never made, and nothing is lost without it
        obtain ⟨none, rfl⟩ := idle
        obtain rfl := List.eq_nil_of_length_eq_zero none
        exact rounds_subset (ih start enough rfl)
      · obtain ⟨after, rfl⟩ := start
        rw [List.append_assoc] at enough ⊢
        have rest : v.length ∈ rounds (lengths ignoreCase p) fuel (least - 1) (most.map (· - 1))
            (v ++ after) := by
          refine ih (List.prefix_append v after) ?_ rfl
          rw [List.length_append] at enough
          omega
        refine mem_rounds_succ.2 (.inl ⟨more, u.length, ?_, idle, v.length, ?_, ?_⟩)
        · exact complete (List.prefix_append u _) first
        · rwa [List.drop_left]
        · exact List.length_append.symm
  | empty | oneOf | row | left | right => cases repeated

theorem exists_of_mem_lengths (member : n ∈ lengths ignoreCase p s) :
    ∃ t, t <+: s ∧ t.length = n ∧ Matches ignoreCase p t := by
  induction p generalizing s n with
  | empty =>
      obtain rfl : n = 0 := by simpa [lengths] using member
      exact ⟨[], List.nil_prefix, rfl, .empty⟩
  | oneOf ranges =>
      cases s with
      | nil => simp [lengths] at member
      | cons c rest =>
          simp only [lengths] at member
          split at member
          · rename_i inside
            obtain rfl := List.mem_singleton.1 member
            exact ⟨[c], ⟨rest, rfl⟩, rfl, .oneOf inside⟩
          · cases member
  | row p q ihp ihq =>
      simp only [lengths, List.mem_flatMap, List.mem_map] at member
      obtain ⟨_, taken, _, rest, rfl⟩ := member
      obtain ⟨t, ⟨after, rfl⟩, rfl, first⟩ := ihp taken
      rw [List.drop_left] at rest
      obtain ⟨u, start, rfl, second⟩ := ihq rest
      exact ⟨t ++ u, (List.prefix_append_right_inj t).2 start, List.length_append,
        .row first second⟩
  | choice p q ihp ihq =>
      rcases List.mem_append.1 member with member | member
      · obtain ⟨t, start, length, first⟩ := ihp member
        exact ⟨t, start, length, .left first⟩
      · obtain ⟨t, start, length, second⟩ := ihq member
        exact ⟨t, start, length, .right second⟩
  | times p least most ih => exact exists_of_mem_rounds ih member

theorem length_mem_lengths (start : t <+: s) (found : Matches ignoreCase p t) :
    t.length ∈ lengths ignoreCase p s := by
  induction p generalizing s t with
  | empty =>
      cases found
      exact List.mem_singleton.2 rfl
  | oneOf ranges =>
      cases found with
      | oneOf inside =>
          obtain ⟨after, rfl⟩ := start
          simp [lengths, inside]
  | row p q ihp ihq =>
      cases found with
      | @row _ _ u v first second =>
          obtain ⟨after, rfl⟩ := start
          rw [List.append_assoc, List.length_append]
          simp only [lengths, List.mem_flatMap, List.mem_map]
          refine ⟨u.length, ihp (List.prefix_append u _) first, v.length, ?_, rfl⟩
          rw [List.drop_left]
          exact ihq (List.prefix_append v after) second
  | choice p q ihp ihq =>
      cases found with
      | left first => exact List.mem_append_left _ (ihp start first)
      | right second => exact List.mem_append_right _ (ihq start second)
  | times p least most ih => exact mem_rounds_of_matches ih found start (Nat.lt_succ_self _)

/-- A search finds the length of every start of a text that a pattern matches, and no other. -/
theorem mem_lengths_iff :
    n ∈ lengths ignoreCase p s ↔ ∃ t, t <+: s ∧ t.length = n ∧ Matches ignoreCase p t := by
  constructor
  · exact exists_of_mem_lengths
  · rintro ⟨t, start, rfl, found⟩
    exact length_mem_lengths start found

theorem matches_iff : Matches ignoreCase p t ↔ t.length ∈ lengths ignoreCase p t := by
  constructor
  · exact length_mem_lengths List.prefix_rfl
  · intro member
    obtain ⟨u, start, length, found⟩ := mem_lengths_iff.1 member
    rwa [start.eq_of_length length] at found

instance (ignoreCase : Bool) (p : Pattern) (t : Text) : Decidable (Matches ignoreCase p t) :=
  decidable_of_iff _ matches_iff.symm

end Rover.Pattern
