import Rover.Vocabulary

namespace Rover.Chain

/-- Whether pits may follow once a line gave a command, or none if it was malformed: a deployment
opens the chain, a pit keeps it, and any other line closes it. -/
def after (isOpen : Bool) : Option Command → Bool
  | some (.deploy _ _) => true
  | some (.pit _) => isOpen
  | _ => false

/-- Looks back from a line, the nearest line first, for a deployment that only pits part from it. -/
def lookBack (v : Vocabulary) : List Text → Except Mishap Bool
  | [] => .ok false
  | line :: earlier =>
      match v.read line with
      | .ok (.deploy _ _) => .ok true
      | .ok (.pit _) => lookBack v earlier
      | .ok _ => .ok false
      | .error (.fault _) => .ok false
      | .error (.mishap m) => .error m

def isOpenBefore (v : Vocabulary) (lines : List Text) (i : Nat) : Except Mishap Bool :=
  lookBack v (lines.take i).reverse

def given (v : Vocabulary) (line : Text) : Except Mishap (Option Command) :=
  match v.read line with
  | .ok c => .ok (some c)
  | .error (.fault _) => .ok none
  | .error (.mishap m) => .error m

/-- The chain before each line and after the last, closed anew at the places in `resets`. -/
def history (v : Vocabulary) (resets : List Nat) :
    Nat → Bool → List Text → Except Mishap (List Bool)
  | i, isOpen, [] => .ok [isOpen && !resets.contains i]
  | i, isOpen, line :: rest => do
      let now := isOpen && !resets.contains i
      let c ← given v line
      let others ← history v resets (i + 1) (after now c) rest
      pure (now :: others)

end Rover.Chain
