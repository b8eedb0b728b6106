import Rover.Place
import Rover.Vocabulary

namespace Rover

inductive Issue where
  | general (message : Text) (hint : Option Text)
  | malformed (message : Text) (hint : Option Text)
  | unknown (keyword : Text) (known : List Text)
  | unreadable (cause : Text)
  deriving DecidableEq, Repr

namespace Issue

def kind : Issue → Styled
  | .general _ _ => Styled.plain "error".toList
  | .malformed _ _ => Styled.inked .alert "syntax error".toList
  | .unknown _ _ => Styled.inked .alert "syntax error".toList
  | .unreadable _ => Styled.inked .alert "input error".toList

def message : Issue → Text
  | .general message _ => message
  | .malformed message _ => message
  | .unknown keyword known => (Fault.unknown keyword known).message
  | .unreadable cause => "can't read input (".toList ++ cause ++ ")".toList

def hint? : Issue → Option Text
  | .general _ hint => hint
  | .malformed _ hint => hint
  | .unknown keyword known => some (Fault.unknown keyword known).hint
  | .unreadable _ => none

def styled (i : Issue) : Styled :=
  i.kind ++ Styled.plain (": ".toList ++ i.message)
    ++ match i.hint?.filter (· ≠ []) with
      | none => []
      | some hint => Styled.plain ['\n'] ++ Styled.inked .header ("  hint: ".toList ++ hint)

end Issue

def Fault.issue : Fault → Issue
  | .unknown keyword known => .unknown keyword known
  | f => .malformed f.message (some f.hint)

/-- A report of an issue. Its texts take the colours of the moment when it was made, save for the
place, which takes those of the moment when it is shown. -/
structure Diagnostic where
  place : Option Place
  issue : Issue
  coloured : Bool
  deriving DecidableEq, Repr

namespace Diagnostic

def kind (d : Diagnostic) : Text := d.issue.kind.render d.coloured

def body (d : Diagnostic) : Text := d.issue.styled.render d.coloured

def text (coloured : Bool) (d : Diagnostic) : Text :=
  (match d.place with
    | some p => p.render coloured
    | none => "None".toList) ++ ": ".toList ++ d.body

end Diagnostic

end Rover
