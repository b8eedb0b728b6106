import Rover.Heading
import Rover.Numeral
import Rover.Pattern
import Rover.Text.Blank

namespace Rover

inductive Recognizer where
  | numeral
  | heading
  | blanks
  | word (spelling : Text) (ignoreCase : Bool)
  | pattern (p : Pattern) (ignoreCase : Bool)
  deriving DecidableEq, Repr

namespace Recognizer

def sameWord (ignoreCase : Bool) (s t : Text) : Bool :=
  if ignoreCase then s.lowercase == t.lowercase else s == t

def prefixToken : Recognizer → Text → Text
  | .numeral, s => Numeral.scan s
  | .heading, s => ((Heading.all.find? (·.label.isPrefixOf s)).map Heading.label).getD []
  | .blanks, s => s.takeWhile Text.isBlank
  | .word _ _, _ => []
  | .pattern p ignoreCase, s => (p.scan? ignoreCase s).getD []

/-- The token at a position. A word is compared with the slice of its length and found in its own
spelling; any other token is not empty, and starts at the start if the position lies before it. -/
def tokenAt? : Recognizer → Text → Int → Option Text
  | .word spelling ignoreCase, s, position =>
      if sameWord ignoreCase (Text.slice s position (position + spelling.length)) spelling then
        some spelling
      else none
  | r, s, position =>
      let token := r.prefixToken (s.drop position.toNat)
      if token = [] then none else some token

def matchAll? (r : Recognizer) (s : Text) : Option Text :=
  (r.tokenAt? s 0).filter (·.length = s.length)

end Recognizer

end Rover
