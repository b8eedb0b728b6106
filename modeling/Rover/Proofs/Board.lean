import Mathlib.Data.List.Induction
import Mathlib.Data.List.Sort
import Mathlib.Data.List.TFAE
import Mathlib.Tactic.TFAE
import Rover.Zone

namespace Rover

instance : Std.Irrefl Cell.Before := ⟨Cell.not_before_self⟩

instance : Std.Antisymm Cell.Before :=
  ⟨fun a _ before after => absurd (before.trans after) a.not_before_self⟩

theorem Pits.eq_of_mem_iff {pits others : Pits} (same : ∀ c, c ∈ pits ↔ c ∈ others) :
    pits = others :=
  Pits.ext (pits.ordered.eq_of_mem_iff others.ordered same)

theorem Pits.cells_nodup (pits : Pits) : pits.cells.Nodup :=
  pits.ordered.imp fun {a b} before same => by
    subst same
    exact a.not_before_self before

inductive Groundwork where
  | dig (c : Cell)
  | clear
  deriving DecidableEq, Repr

namespace Groundwork

variable {works : List Groundwork} {c : Cell}

def apply (pits : Pits) : Groundwork → Pits
  | .dig c => pits.insert c
  | .clear => Pits.empty

def pits (works : List Groundwork) : Pits := works.foldl apply Pits.empty

theorem pits_concat (works : List Groundwork) (work : Groundwork) :
    pits (works ++ [work]) = apply (pits works) work := by
  rw [pits, List.foldl_append]
  rfl

/-- The cell was dug, and nothing was cleared since. -/
def Leaves (works : List Groundwork) (c : Cell) : Prop :=
  ∃ earlier later, works = earlier ++ .dig c :: later ∧ .clear ∉ later

theorem not_leaves_nil : ¬ Leaves [] c := by
  rintro ⟨earlier, later, nil, -⟩
  simp at nil

theorem leaves_concat {work : Groundwork} :
    Leaves (works ++ [work]) c ↔ work = .dig c ∨ work ≠ .clear ∧ Leaves works c := by
  constructor
  · rintro ⟨earlier, later, split, kept⟩
    cases later using List.reverseRecOn with
    | nil =>
        obtain ⟨-, last⟩ := List.append_inj' split rfl
        exact .inl (List.singleton_inj.1 last)
    | append_singleton later final =>
        rw [← List.cons_append, ← List.append_assoc] at split
        obtain ⟨rfl, last⟩ := List.append_inj' split rfl
        obtain rfl := List.singleton_inj.1 last
        rw [List.mem_append, List.mem_singleton, not_or] at kept
        exact .inr ⟨Ne.symm kept.2, earlier, later, rfl, kept.1⟩
  · rintro (rfl | ⟨digs, earlier, later, rfl, kept⟩)
    · exact ⟨works, [], rfl, List.not_mem_nil⟩
    · refine ⟨earlier, later ++ [work], by simp, ?_⟩
      rw [List.mem_append, List.mem_singleton, not_or]
      exact ⟨kept, Ne.symm digs⟩

theorem mem_pits_iff : c ∈ pits works ↔ Leaves works c := by
  induction works using List.reverseRecOn with
  | nil => exact iff_of_false (Pits.not_mem_empty c) not_leaves_nil
  | append_singleton works work ih =>
      rw [pits_concat, leaves_concat, ← ih]
      cases work with
      | dig d => simp [apply, eq_comm]
      | clear => simp [apply]

theorem eq_cells_iff {cells : List Cell} :
    cells = (pits works).cells ↔
      cells.Pairwise Cell.Before ∧ ∀ c, c ∈ cells ↔ Leaves works c := by
  constructor
  · rintro rfl
    exact ⟨(pits works).ordered, fun c => mem_pits_iff⟩
  · rintro ⟨ordered, same⟩
    exact ordered.eq_of_mem_iff (pits works).ordered fun c => (same c).trans mem_pits_iff.symm

theorem pits_tfae (z : Zone) (works others : List Groundwork) :
    [∀ c, Leaves works c ↔ Leaves others c, pits works = pits others,
      ∀ c, z.verdict (pits works) c = z.verdict (pits others) c,
      (pits works).cells = (pits others).cells].TFAE := by
  tfae_have 1 → 2 := fun same =>
    Pits.eq_of_mem_iff fun c => by rw [mem_pits_iff, mem_pits_iff, same]
  tfae_have 2 → 3 := fun equal c => by rw [equal]
  tfae_have 3 → 4 := fun alike => by
    have equal : pits works = pits others := Pits.eq_of_mem_iff fun c => by
      rw [← Zone.verdict_eq_pit_iff (z := z), alike, Zone.verdict_eq_pit_iff]
    rw [equal]
  tfae_have 4 → 1 := fun listed c => by
    rw [← mem_pits_iff, ← mem_pits_iff, Pits.ext listed]
  tfae_finish

/-- A board holds the cells dug since it was last cleared, wherever they lie. Its answers and its
listing depend on nothing else: neither on the order of the digging nor on its repetition. -/
theorem board_after_works (z : Zone) (works : List Groundwork) :
    (∀ x y : Int, ⟨x, y⟩ ∈ pits works ↔ Leaves works ⟨x, y⟩) ∧
    (∀ x y : Int,
      (z.verdict (pits works) ⟨x, y⟩ = .pit ↔ ⟨x, y⟩ ∈ pits works) ∧
      (z.verdict (pits works) ⟨x, y⟩ = .outside ↔
        ⟨x, y⟩ ∉ pits works ∧ ¬ (0 ≤ x ∧ x < z.size ∧ 0 ≤ y ∧ y < z.size)) ∧
      (z.verdict (pits works) ⟨x, y⟩ = .free ↔
        ⟨x, y⟩ ∉ pits works ∧ 0 ≤ x ∧ x < z.size ∧ 0 ≤ y ∧ y < z.size)) ∧
    (pits works).cells.Nodup ∧
    (∀ cells : List Cell, cells = (pits works).cells ↔
      cells.Pairwise (fun a b => a.x < b.x ∨ a.x = b.x ∧ a.y < b.y) ∧
        ∀ c, c ∈ cells ↔ Leaves works c) ∧
    ∀ others : List Groundwork,
      [∀ c, Leaves works c ↔ Leaves others c, pits works = pits others,
        ∀ c, z.verdict (pits works) c = z.verdict (pits others) c,
        (pits works).cells = (pits others).cells].TFAE := by
  refine ⟨fun x y => mem_pits_iff, fun x y => ?_, Pits.cells_nodup _, fun cells => eq_cells_iff,
    fun others => pits_tfae z works others⟩
  exact ⟨Zone.verdict_eq_pit_iff, Zone.verdict_eq_outside_iff, Zone.verdict_eq_free_iff⟩

example :
    (pits [.dig ⟨5, 5⟩, .clear, .dig ⟨0, 2⟩, .dig ⟨-3, 99⟩, .dig ⟨0, 2⟩]).cells =
      [⟨-3, 99⟩, ⟨0, 2⟩] := by
  decide

end Groundwork

end Rover
