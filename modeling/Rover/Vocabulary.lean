import Rover.Command
import Rover.Phrase
import Rover.Recognizer
import Rover.Table

namespace Rover

inductive Verb where
  | deploy
  | pit
  | move
  | left
  | right
  | report
  | custom (keyword : Text) (shape : List Slot)
  deriving DecidableEq, Repr

namespace Verb

def keyword : Verb → Text
  | .deploy => "DEPLOY".toList
  | .pit => "PIT".toList
  | .move => "MOVE".toList
  | .left => "LEFT".toList
  | .right => "RIGHT".toList
  | .report => "REPORT".toList
  | .custom keyword _ => keyword

def shape : Verb → List Slot
  | .deploy => [.number, .number, .heading]
  | .pit => [.number, .number]
  | .custom _ shape => shape
  | _ => []

def usage (v : Verb) : Text :=
  if v.shape = [] then v.keyword
  else v.keyword ++ ' ' :: [','].intercalate (v.shape.map Slot.label)

def standard : List Verb := [.deploy, .pit, .move, .left, .right, .report]

def command : Verb → List Argument → Command
  | .deploy, [.number x, .number y, .heading h] => .deploy ⟨x, y⟩ h
  | .pit, [.number x, .number y] => .pit ⟨x, y⟩
  | .move, [] => .move
  | .left, [] => .left
  | .right, [] => .right
  | .report, [] => .report
  | v, arguments => .custom v.keyword arguments

end Verb

inductive Fault where
  | unknown (keyword : Text) (known : List Text)
  | arity (verb : Verb) (given : Nat)
  | argument (verb : Verb) (position : Nat) (given : Text) (slot : Slot)
  deriving DecidableEq, Repr

namespace Fault

def message : Fault → Text
  | .unknown keyword _ => "unknown command '".toList ++ keyword ++ "'".toList
  | .arity verb given =>
      "'".toList ++ verb.keyword ++ "' expects ".toList ++ Numeral.ofNat verb.shape.length
        ++ " argument(s) but got ".toList ++ Numeral.ofNat given
  | .argument verb position given slot =>
      "invalid argument ".toList ++ Numeral.ofNat position ++ " '".toList ++ given
        ++ "' for '".toList ++ verb.keyword ++ "', expected ".toList ++ slot.label

def hint : Fault → Text
  | .unknown _ known => "expected one of: ".toList ++ [' '].intercalate known
  | .arity verb _ => verb.usage
  | .argument verb _ _ _ => verb.usage

end Fault

/-- What may go wrong with a line that is no fault of the line: a well-formed numeral that is too
long to be read, a keyword that was recognized and is not listed, and a direction that names no
heading. -/
inductive Mishap where
  | overlong
  | unlisted
  | unnamed
  deriving DecidableEq, Repr

inductive Refusal where
  | fault (f : Fault)
  | mishap (m : Mishap)
  deriving DecidableEq, Repr

structure Vocabulary where
  verbs : Table Verb
  ignoreCase : Bool
  deriving DecidableEq, Repr

namespace Vocabulary

def ofVerbs (verbs : List Verb) (ignoreCase : Bool) : Vocabulary :=
  ⟨.ofList (verbs.map fun v => (v.keyword, v)), ignoreCase⟩

def standard : Vocabulary := ofVerbs Verb.standard false

/-- The first keyword that the given one is a spelling of. -/
def recognize? (v : Vocabulary) (keyword : Text) : Option Text :=
  v.verbs.keys.find? fun k => ((Recognizer.word k v.ignoreCase).matchAll? keyword).isSome

end Vocabulary

def Slot.recognizer : Slot → Recognizer
  | .number => .numeral
  | .heading => .heading

def Verb.readArgument (v : Verb) (position : Nat) (slot : Slot) (given : Text) :
    Except Refusal Argument :=
  match slot with
  | .number =>
      match Recognizer.numeral.matchAll? given with
      | some token =>
          if Numeral.Readable token then .ok (.number (Numeral.value token))
          else .error (.mishap .overlong)
      | none => .error (.fault (.argument v position given slot))
  | .heading =>
      match Recognizer.heading.matchAll? given with
      | some token =>
          match Heading.ofLabel? token with
          | some h => .ok (.heading h)
          | none => .error (.mishap .unnamed)
      | none => .error (.fault (.argument v position given slot))

def Verb.readArguments (v : Verb) : Nat → List Slot → List Text → Except Refusal (List Argument)
  | position, slot :: slots, given :: others => do
      let a ← v.readArgument position slot given
      let rest ← v.readArguments (position + 1) slots others
      pure (a :: rest)
  | _, _, _ => .ok []

def Vocabulary.read (v : Vocabulary) (line : Text) : Except Refusal Command :=
  let phrase := Phrase.ofLine line
  match v.recognize? phrase.keyword with
  | none => .error (.fault (.unknown phrase.keyword (Text.sort v.verbs.keys)))
  | some keyword =>
      match v.verbs.get? keyword with
      | none => .error (.mishap .unlisted)
      | some verb =>
          if phrase.arguments.length = verb.shape.length then
            (verb.readArguments 1 verb.shape phrase.arguments).map verb.command
          else .error (.fault (.arity verb phrase.arguments.length))

end Rover
