import Rover.Text.Lowercase
import Rover.Numeral

namespace Rover

inductive Pattern where
  | empty
  | oneOf (ranges : List (Char × Char))
  | row (p q : Pattern)
  | choice (p q : Pattern)
  | times (p : Pattern) (least : Nat) (most : Option Nat)
  deriving DecidableEq, Repr

namespace Pattern

def caseKey (c : Char) : Text :=
  if c = 'ſ' then ['s'] else if c = 'ı' || c = 'İ' then ['i'] else Text.smallForm c

def inRange (ignoreCase : Bool) (c : Char) (r : Char × Char) : Bool :=
  (r.1 ≤ c && c ≤ r.2) ||
    ignoreCase && (List.range (r.2.toNat + 1 - r.1.toNat)).any fun k =>
      caseKey (Char.ofNat (r.1.toNat + k)) == caseKey c

/-- The lengths after `least` to `most` rounds of `step`, longer runs first. A round that takes
nothing ends the run. -/
def rounds (step : Text → List Nat) : Nat → Nat → Option Nat → Text → List Nat
  | 0, _, _, _ => []
  | fuel + 1, least, most, s =>
      (if most = some 0 then [] else (step s).flatMap fun n =>
        if n = 0 && least = 0 then []
        else (rounds step fuel (least - 1) (most.map (· - 1)) (s.drop n)).map (n + ·))
      ++ if least = 0 then [0] else []

/-- The lengths of the matches at the start of `s`, the preferred one first: an earlier choice
before a later one, a longer repetition before a shorter one. -/
def lengths (ignoreCase : Bool) : Pattern → Text → List Nat
  | .empty, _ => [0]
  | .oneOf ranges, s =>
      match s with
      | [] => []
      | c :: _ => if ranges.any (inRange ignoreCase c) then [1] else []
  | .row p q, s =>
      (lengths ignoreCase p s).flatMap fun n => (lengths ignoreCase q (s.drop n)).map (n + ·)
  | .choice p q, s => lengths ignoreCase p s ++ lengths ignoreCase q s
  | .times p least most, s => rounds (lengths ignoreCase p) (s.length + least + 1) least most s

def scan? (p : Pattern) (ignoreCase : Bool) (s : Text) : Option Text :=
  (p.lengths ignoreCase s).head?.map s.take

end Pattern

end Rover
