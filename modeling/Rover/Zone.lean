import Rover.Pits

namespace Rover

structure Zone where
  size : Nat
  positive : 0 < size
  deriving DecidableEq

inductive Verdict where
  | free
  | pit
  | outside
  deriving DecidableEq, Repr

namespace Zone

def standard : Zone := ⟨10, by decide⟩

def ofSize? (n : Int) : Option Zone :=
  if h : 0 < n.toNat then some ⟨n.toNat, h⟩ else none

def Contains (z : Zone) (c : Cell) : Prop :=
  0 ≤ c.x ∧ c.x < z.size ∧ 0 ≤ c.y ∧ c.y < z.size

instance (z : Zone) (c : Cell) : Decidable (z.Contains c) := by
  unfold Contains
  infer_instance

/-- A pit is found first, also outside the zone. -/
def verdict (z : Zone) (pits : Pits) (c : Cell) : Verdict :=
  if c ∈ pits then .pit else if z.Contains c then .free else .outside

theorem verdict_eq_pit_iff {z : Zone} {pits : Pits} {c : Cell} :
    z.verdict pits c = .pit ↔ c ∈ pits := by
  unfold verdict
  split
  · simp [*]
  · split <;> simp [*]

theorem verdict_eq_free_iff {z : Zone} {pits : Pits} {c : Cell} :
    z.verdict pits c = .free ↔ c ∉ pits ∧ z.Contains c := by
  unfold verdict
  split
  · simp [*]
  · split <;> simp [*]

theorem verdict_eq_outside_iff {z : Zone} {pits : Pits} {c : Cell} :
    z.verdict pits c = .outside ↔ c ∉ pits ∧ ¬ z.Contains c := by
  unfold verdict
  split
  · simp [*]
  · split <;> simp [*]

end Zone

end Rover
