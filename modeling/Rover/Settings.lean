import Rover.Encoding
import Rover.Vocabulary
import Rover.Wording

namespace Rover

/-- What a rover is made with. An override answers a keyword with a fixed text and does nothing
else. -/
structure Settings where
  zone : Zone
  wording : Wording
  vocabulary : Vocabulary
  overrides : Table (Option Text)
  encoding : Encoding
  keepsState : Bool
  traced : Bool

/-- A wished size: a whole number, or something else, known by the text that it shows if it can be
shown. -/
inductive Size where
  | whole (n : Int)
  | other (shown? : Option Text)
  deriving DecidableEq, Repr

/-- Why there is no rover. A size that cannot be shown fails while its message is written. -/
inductive SetupError where
  | size (shown : Text)
  | unshown
  | unhandled (keywords : List Text)
  deriving DecidableEq, Repr

def SetupError.message? : SetupError → Option Text
  | .size shown =>
      some ("Board size must be a positive integer, got \"".toList ++ shown ++ "\".".toList)
  | .unshown => none
  | .unhandled keywords =>
      some ("No handler defined for command(s): ".toList ++ ", ".toList.intercalate keywords
        ++ ".".toList)

namespace Size

def shown? : Size → Option Text
  | .whole n => if Numeral.Writable n then some (Numeral.ofInt n) else none
  | .other shown? => shown?

def refusal (size : Size) : SetupError :=
  match size.shown? with
  | some shown => .size shown
  | none => .unshown

def zone : Size → Except SetupError Zone
  | .whole n =>
      match Zone.ofSize? n with
      | some z => .ok z
      | none => .error (refusal (.whole n))
  | size => .error size.refusal

end Size

namespace Settings

def standard : Settings where
  zone := Zone.standard
  wording := Wording.standard
  vocabulary := Vocabulary.standard
  overrides := Table.empty
  encoding := .utf8
  keepsState := false
  traced := false

def unhandled (s : Settings) : List Text :=
  Text.sort (s.vocabulary.verbs.keys.filter fun keyword =>
    (s.overrides.get? keyword).isNone && !(Verb.standard.map Verb.keyword).contains keyword)

def checked (s : Settings) : Except SetupError Settings :=
  if s.unhandled = [] then .ok s else .error (.unhandled s.unhandled)

theorem of_checked_eq_ok {s t : Settings} (ok : s.checked = .ok t) : s.unhandled = [] ∧ t = s := by
  unfold checked at ok
  split at ok
  · rename_i handled
    exact ⟨handled, (Except.ok.inj ok).symm⟩
  · cases ok

end Settings

end Rover
