namespace Rover

/-- Text is a list of code points, so every length and position counts code points. -/
abbrev Text := List Char

namespace Text

def extend {α : Type} (a : α) : List (List α) → List (List α)
  | [] => [[a]]
  | piece :: pieces => (a :: piece) :: pieces

theorem extend_ne_nil {α : Type} (a : α) (pieces : List (List α)) : extend a pieces ≠ [] := by
  cases pieces <;> simp [extend]

def splitAt (sep : Char) : Text → List Text
  | [] => [[]]
  | c :: rest => if c = sep then [] :: splitAt sep rest else extend c (splitAt sep rest)

theorem splitAt_ne_nil (sep : Char) (s : Text) : splitAt sep s ≠ [] := by
  cases s with
  | nil => simp [splitAt]
  | cons c rest =>
      simp only [splitAt]
      split
      · simp
      · exact extend_ne_nil _ _

/-- Where an offset points in a text of length `n`: a negative one counts from the end, and none
leaves the text. -/
def clamp (n : Nat) (i : Int) : Nat :=
  if i < 0 then (n + i).toNat else min n i.toNat

def slice (s : Text) (start stop : Int) : Text :=
  (s.take (clamp s.length stop)).drop (clamp s.length start)

def byteCount : Text → Nat
  | [] => 0
  | c :: rest => c.utf8Size + byteCount rest

def precedes (s t : Text) : Bool := decide (¬ t < s)

def sort (texts : List Text) : List Text := texts.mergeSort precedes

def trimEnd (drop : Char → Bool) (s : Text) : Text := (s.reverse.dropWhile drop).reverse

def replace (c : Char) (new : Text) (s : Text) : Text :=
  s.flatMap fun d => if d = c then new else [d]

def inRanges (ranges : List (Nat × Nat)) (c : Char) : Bool :=
  ranges.any fun r => r.1 ≤ c.toNat && c.toNat ≤ r.2

end Text

end Rover
