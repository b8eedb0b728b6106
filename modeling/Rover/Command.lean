import Rover.Cell

namespace Rover

inductive Slot where
  | number
  | heading
  deriving DecidableEq, Repr

def Slot.label : Slot → Text
  | .number => "INT".toList
  | .heading => "DIRECTION".toList

inductive Argument where
  | number (n : Int)
  | heading (h : Heading)
  deriving DecidableEq, Repr

namespace Argument

def text : Argument → Text
  | .number n => Numeral.ofInt n
  | .heading h => h.label

end Argument

/-- What one line asks for. `custom` is a command of the user's own vocabulary. -/
inductive Command where
  | deploy (cell : Cell) (heading : Heading)
  | pit (cell : Cell)
  | move
  | left
  | right
  | report
  | custom (keyword : Text) (arguments : List Argument)
  deriving DecidableEq, Repr

namespace Command

def keyword : Command → Text
  | .deploy _ _ => "DEPLOY".toList
  | .pit _ => "PIT".toList
  | .move => "MOVE".toList
  | .left => "LEFT".toList
  | .right => "RIGHT".toList
  | .report => "REPORT".toList
  | .custom keyword _ => keyword

def arguments : Command → List Argument
  | .deploy cell heading => [.number cell.x, .number cell.y, .heading heading]
  | .pit cell => [.number cell.x, .number cell.y]
  | .custom _ arguments => arguments
  | _ => []

def cell? : Command → Option Cell
  | .deploy cell _ => some cell
  | .pit cell => some cell
  | _ => none

def text (c : Command) : Text :=
  if c.arguments = [] then c.keyword
  else c.keyword ++ ' ' :: [','].intercalate (c.arguments.map Argument.text)

end Command

end Rover
