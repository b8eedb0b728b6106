import Rover.Heading
import Rover.Numeral

namespace Rover

structure Cell where
  x : Int
  y : Int
  deriving DecidableEq, Repr

namespace Cell

/-- The neighbour in a direction: `y` grows to the north and `x` to the east. -/
def ahead (c : Cell) : Heading → Cell
  | .north => ⟨c.x, c.y + 1⟩
  | .east => ⟨c.x + 1, c.y⟩
  | .south => ⟨c.x, c.y - 1⟩
  | .west => ⟨c.x - 1, c.y⟩

def IsWritable (c : Cell) : Prop := Numeral.Writable c.x ∧ Numeral.Writable c.y

instance (c : Cell) : Decidable c.IsWritable := inferInstanceAs (Decidable (_ ∧ _))

def text (c : Cell) : Text := Numeral.ofInt c.x ++ ",".toList ++ Numeral.ofInt c.y

def Before (a b : Cell) : Prop := a.x < b.x ∨ a.x = b.x ∧ a.y < b.y

instance (a b : Cell) : Decidable (a.Before b) := inferInstanceAs (Decidable (_ ∨ _))

theorem Before.trans {a b c : Cell} (h : a.Before b) (k : b.Before c) : a.Before c := by
  simp only [Before] at *
  omega

theorem not_before_self (a : Cell) : ¬ a.Before a := by
  simp only [Before]
  omega

theorem before_of_not {a b : Cell} (h : ¬ a.Before b) (ne : a ≠ b) : b.Before a := by
  obtain ⟨ax, ay⟩ := a
  obtain ⟨bx, bz⟩ := b
  simp only [Before, ne_eq, Cell.mk.injEq] at *
  omega

end Cell

end Rover
