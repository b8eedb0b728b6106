import Rover.Pattern

namespace Rover.Pattern

inductive Flaw where
  | openSet
  | badRange (first last : Char)
  | openGroup
  | unopenedGroup
  | nothingToRepeat
  | repeatedTwice
  | leastOverMost
  deriving DecidableEq, Repr

def Flaw.text : Flaw → Text
  | .openSet => "unterminated character set".toList
  | .badRange first last => "bad character range ".toList ++ [first, '-', last]
  | .openGroup => "missing ), unterminated subpattern".toList
  | .unopenedGroup => "unbalanced parenthesis".toList
  | .nothingToRepeat => "nothing to repeat".toList
  | .repeatedTwice => "multiple repeat".toList
  | .leastOverMost => "min repeat greater than max repeat".toList

structure Misprint where
  written : Text
  flaw : Flaw
  position : Nat
  deriving DecidableEq, Repr

def Misprint.text (m : Misprint) : Text :=
  "Regex compile error in /".toList ++ m.written ++ "/ (report: \"".toList ++ m.flaw.text
    ++ " at position ".toList ++ Numeral.ofNat m.position ++ "\")".toList

def repetition? : Text → Option (Nat × Option Nat × Text)
  | '*' :: rest => some (0, none, rest)
  | '+' :: rest => some (1, none, rest)
  | '?' :: rest => some (0, some 1, rest)
  | '{' :: rest =>
      let low := rest.takeWhile Numeral.isDigit
      let least := Nat.ofDigitChars 10 low 0
      match rest.dropWhile Numeral.isDigit with
      | '}' :: rest => if low.isEmpty then none else some (least, some least, rest)
      | ',' :: rest =>
          let high := rest.takeWhile Numeral.isDigit
          match rest.dropWhile Numeral.isDigit with
          | '}' :: rest =>
              some (least, if high.isEmpty then none else some (Nat.ofDigitChars 10 high 0), rest)
          | _ => none
      | _ => none
  | _ => none

/-- The rest of a set after its bracket. A flaw comes with the count of the characters left where it
lies; for a set without end that is `opened`, the bracket being one of them. -/
def readSet (opened : Nat) :
    List (Char × Char) → Text → Except (Flaw × Nat) (List (Char × Char) × Text)
  | _, [] => .error (.openSet, opened)
  | ranges, c :: rest =>
      if c = ']' && !ranges.isEmpty then .ok (ranges, rest)
      else match rest with
        | '-' :: d :: after =>
            if d = ']' then readSet opened (ranges ++ [(c, c)]) ('-' :: d :: after)
            else if d < c then .error (.badRange c d, after.length + 3)
            else readSet opened (ranges ++ [(c, d)]) after
        | others => readSet opened (ranges ++ [(c, c)]) others
termination_by _ s => s.length

def repeated (p : Pattern) (s : Text) : Except (Flaw × Nat) (Pattern × Text) :=
  match repetition? s with
  | none => .ok (p, s)
  | some (least, most, rest) =>
      if most.any (· < least) then .error (.leastOverMost, s.length - 1)
      else if (repetition? rest).isSome then .error (.repeatedTwice, rest.length)
      else .ok (.times p least most, rest)

mutual

def readChoice : Nat → Text → Except (Flaw × Nat) (Pattern × Text)
  | 0, s => .ok (.empty, s)
  | fuel + 1, s => do
      let (p, rest) ← readRow fuel s
      match rest with
      | '|' :: rest =>
          let (q, rest) ← readChoice fuel rest
          pure (.choice p q, rest)
      | _ => pure (p, rest)

def readRow : Nat → Text → Except (Flaw × Nat) (Pattern × Text)
  | 0, s => .ok (.empty, s)
  | _, [] => .ok (.empty, [])
  | fuel + 1, c :: rest =>
      if c = '|' || c = ')' then .ok (.empty, c :: rest)
      else if (repetition? (c :: rest)).isSome then .error (.nothingToRepeat, rest.length + 1)
      else do
        let (piece, rest) ← readPiece fuel c rest
        let (piece, rest) ← repeated piece rest
        let (others, rest) ← readRow fuel rest
        pure (.row piece others, rest)

def readPiece : Nat → Char → Text → Except (Flaw × Nat) (Pattern × Text)
  | 0, _, s => .ok (.empty, s)
  | fuel + 1, c, rest =>
      if c = '[' then do
        let (ranges, rest) ← readSet (rest.length + 1) [] rest
        pure (.oneOf ranges, rest)
      else if c = '(' then do
        let (p, after) ← readChoice fuel rest
        match after with
        | ')' :: after => pure (p, after)
        | _ => .error (.openGroup, rest.length + 1)
      else .ok (.oneOf [(c, c)], rest)

end

def ofText (s : Text) : Except Misprint Pattern :=
  match readChoice (3 * s.length + 3) s with
  | .error (flaw, left) => .error ⟨s, flaw, s.length - left⟩
  | .ok (p, []) => .ok p
  | .ok (_, rest) => .error ⟨s, .unopenedGroup, s.length - rest.length⟩

end Rover.Pattern
