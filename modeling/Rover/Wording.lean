import Rover.Template
import Rover.Zone

namespace Rover

structure Pose where
  cell : Cell
  heading : Heading
  deriving DecidableEq, Repr

/-- The lines that the rover answers with. `report` is a template. -/
structure Wording where
  outside : Option Text
  pit : Option Text
  robot : Option Text
  report : Text
  extras : Template.Extras := .none

namespace Wording

def standard : Wording where
  outside := some "Outside Zone: Ignored".toList
  pit := some "PIT Detected: Ignored".toList
  robot := some "ROBOT Detected: Ignored".toList
  report := "{x},{y},{direction}".toList

def onVerdict (w : Wording) : Verdict → Option Text
  | .free => none
  | .pit => w.pit
  | .outside => w.outside

def fields (p : Pose) : Template.Fields := fun name =>
  if name = ['x'] then some (.number p.cell.x)
  else if name = ['y'] then some (.number p.cell.y)
  else if name = "direction".toList then some (.text p.heading.label)
  else none

def reportOf (w : Wording) (p : Pose) : Except Template.Flaw Text :=
  Template.expand w.extras (fields p) w.report

end Wording

end Rover
