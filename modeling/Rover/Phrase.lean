import Rover.Text.Blank

namespace Rover

structure Phrase where
  keyword : Text
  arguments : List Text
  deriving DecidableEq, Repr

namespace Phrase

/-- The keyword ends at the first blank; after the blanks, commas part the arguments. Blanks at the
ends of the line do not count, and those around a comma stay. -/
def ofLine (line : Text) : Phrase :=
  let body := Text.trim line
  match body.dropWhile (!Text.isBlank ·) with
  | [] => ⟨body, []⟩
  | rest =>
      ⟨body.takeWhile (!Text.isBlank ·), Text.splitAt ',' (rest.dropWhile Text.isBlank)⟩

end Phrase

end Rover
