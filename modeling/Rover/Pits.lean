import Rover.Cell

namespace Rover

/-- A set of cells, kept in listing order so that equal sets are equal values. -/
@[ext] structure Pits where
  cells : List Cell
  ordered : cells.Pairwise Cell.Before
  deriving DecidableEq

namespace Pits

instance : Membership Cell Pits := ⟨fun pits c => c ∈ pits.cells⟩

instance (c : Cell) (pits : Pits) : Decidable (c ∈ pits) :=
  inferInstanceAs (Decidable (c ∈ pits.cells))

def empty : Pits := ⟨[], .nil⟩

@[simp] theorem not_mem_empty (c : Cell) : c ∉ empty := List.not_mem_nil

def place (c : Cell) : List Cell → List Cell
  | [] => [c]
  | d :: rest => if c.Before d then c :: d :: rest else if c = d then d :: rest
      else d :: place c rest

theorem mem_place {a c : Cell} : ∀ cells : List Cell, a ∈ place c cells ↔ a = c ∨ a ∈ cells
  | [] => by simp [place]
  | d :: rest => by
      simp only [place]
      split
      · simp
      · split
        · rename_i h
          subst h
          simp
        · simp only [List.mem_cons, mem_place rest]
          constructor
          · rintro (h | h | h) <;> simp [h]
          · rintro (h | h | h) <;> simp [h]

theorem ordered_place (c : Cell) :
    ∀ {cells : List Cell}, cells.Pairwise Cell.Before → (place c cells).Pairwise Cell.Before
  | [], _ => by simp [place]
  | d :: rest, h => by
      obtain ⟨first, tail⟩ := List.pairwise_cons.1 h
      simp only [place]
      split
      · rename_i before
        refine List.pairwise_cons.2 ⟨fun a ha => ?_, h⟩
        rcases List.mem_cons.1 ha with rfl | ha
        · exact before
        · exact before.trans (first a ha)
      · split
        · exact h
        · rename_i before ne
          refine List.pairwise_cons.2 ⟨fun a ha => ?_, ordered_place c tail⟩
          rcases (mem_place rest).1 ha with rfl | ha
          · exact Cell.before_of_not before ne
          · exact first a ha

def insert (pits : Pits) (c : Cell) : Pits := ⟨place c pits.cells, ordered_place c pits.ordered⟩

@[simp] theorem mem_insert {pits : Pits} {a c : Cell} : a ∈ pits.insert c ↔ a = c ∨ a ∈ pits :=
  mem_place pits.cells

def size (pits : Pits) : Nat := pits.cells.length

end Pits

end Rover
