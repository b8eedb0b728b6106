import Rover.Numeral
import Rover.Text.Quoted

namespace Rover.Template

inductive Flaw where
  | malformed
  | unknownField
  | noPosition
  | outOfRange
  | noItems
  | noMember
  deriving DecidableEq, Repr

inductive Value where
  | number (n : Int)
  | text (s : Text)
  deriving DecidableEq, Repr

/-- A number is written in decimal only if it is short enough. -/
def decimal (n : Int) : Except Flaw Text :=
  if Numeral.Writable n then .ok (Numeral.ofInt n) else .error .malformed

def Value.plain : Value → Except Flaw Text
  | .number n => decimal n
  | .text s => .ok s

inductive Align where
  | left
  | right
  | center
  | inner
  deriving DecidableEq, Repr

def Align.ofChar? : Char → Option Align
  | '<' => some .left
  | '>' => some .right
  | '^' => some .center
  | '=' => some .inner
  | _ => none

inductive Sign where
  | negativeOnly
  | always
  | space
  deriving DecidableEq, Repr

def Sign.ofChar? : Char → Option Sign
  | '-' => some .negativeOnly
  | '+' => some .always
  | ' ' => some .space
  | _ => none

structure Layout where
  fill : Char
  align : Align
  sign : Option Sign
  noNegativeZero : Bool
  alternate : Bool
  width : Nat
  mark : Option Char
  precision : Option Nat
  form : Option Char
  deriving DecidableEq, Repr

/-- Counts in a template stay below 2 to the 63rd. -/
def maxCount : Nat := 9223372036854775807

def readCount : Option Nat → Text → Except Flaw (Option Nat × Text)
  | n, [] => .ok (n, [])
  | n, c :: rest =>
      match Text.digitValue? c with
      | none => .ok (n, c :: rest)
      | some d =>
          if maxCount < n.getD 0 * 10 + d then .error .malformed
          else readCount (some (n.getD 0 * 10 + d)) rest

def readAlign : Text → Option Char × Option Align × Text
  | fill :: c :: rest =>
      match Align.ofChar? c, Align.ofChar? fill with
      | some align, _ => (some fill, some align, rest)
      | none, some align => (none, some align, c :: rest)
      | none, none => (none, none, fill :: c :: rest)
  | [c] =>
      match Align.ofChar? c with
      | some align => (none, some align, [])
      | none => (none, none, [c])
  | [] => (none, none, [])

def readSign : Text → Option Sign × Text
  | c :: rest =>
      match Sign.ofChar? c with
      | some sign => (some sign, rest)
      | none => (none, c :: rest)
  | [] => (none, [])

def readFlag (flag : Char) : Text → Bool × Text
  | c :: rest => if c = flag then (true, rest) else (false, c :: rest)
  | [] => (false, [])

def readMark (s : Text) : Except Flaw (Option Char × Text) :=
  match readFlag ',' s with
  | (true, rest) => if rest.head? = some '_' then .error .malformed else .ok (some ',', rest)
  | (false, rest) =>
      match readFlag '_' rest with
      | (true, rest) => if rest.head? = some ',' then .error .malformed else .ok (some '_', rest)
      | (false, rest) => .ok (none, rest)

def readPrecision (s : Text) : Except Flaw (Option Nat × Text) :=
  match readFlag '.' s with
  | (false, rest) => .ok (none, rest)
  | (true, rest) => do
      match ← readCount none rest with
      | (none, _) => .error .malformed
      | (some n, rest) => .ok (some n, rest)

/-- Reads a layout. A zero before the width fills with zeros, and puts them between sign and digits
where values stand at the right by custom. -/
def readLayout (custom : Align) (s : Text) : Except Flaw Layout := do
  let (fill, align, s) := readAlign s
  let (sign, s) := readSign s
  let (noNegativeZero, s) := readFlag 'z' s
  let (alternate, s) := readFlag '#' s
  let (zero, s) := if fill.isNone then readFlag '0' s else (false, s)
  let (width, s) ← readCount none s
  let (mark, s) ← readMark s
  let (precision, s) ← readPrecision s
  let form ← match s with
    | [] => pure none
    | [c] => pure (some c)
    | _ => .error .malformed
  pure {
    fill := if zero then '0' else fill.getD ' '
    align := align.getD (if zero && custom = .right then .inner else custom)
    sign, noNegativeZero, alternate, width := width.getD 0, mark, precision, form }

def pad (l : Layout) (opening body : Text) : Text :=
  let missing := l.width - (opening.length + body.length)
  let run (n : Nat) : Text := List.replicate n l.fill
  match l.align with
  | .left => opening ++ body ++ run missing
  | .right => run missing ++ opening ++ body
  | .center => run (missing / 2) ++ opening ++ body ++ run (missing - missing / 2)
  | .inner => opening ++ run missing ++ body

/-- Digits in groups, the lowest first. Zeros fill up to the least width, and a group is not left
open for its mark. -/
def groupDigits (size : Nat) (mark : Char) : Nat → Nat → Text → Text
  | 0, _, _ => []
  | fuel + 1, least, digits =>
      let n := min size (max (max digits.length least) 1)
      let group := digits.take n ++ List.replicate (n - digits.length) '0'
      let rest := digits.drop n
      if rest.isEmpty && least ≤ n then group
      else group ++ mark :: groupDigits size mark fuel (least - n - 1) rest

def base? : Char → Option (Nat × Text)
  | 'd' => some (10, [])
  | 'n' => some (10, [])
  | 'b' => some (2, ['0', 'b'])
  | 'o' => some (8, ['0', 'o'])
  | 'x' => some (16, ['0', 'x'])
  | 'X' => some (16, ['0', 'X'])
  | _ => none

def signText (sign : Option Sign) (negative : Bool) : Text :=
  if negative then ['-']
  else match sign with
    | some .always => ['+']
    | some .space => [' ']
    | _ => []

def groupSize (form mark : Char) : Except Flaw Nat :=
  if form = 'd' then .ok 3
  else if mark = '_' && form ≠ 'n' then .ok 4
  else .error .malformed

/-- What a template may show besides texts and the forms of whole numbers: a number in another form,
such as a fraction, and a member that is no value, by the rest of its name and a conversion, in any
layout. -/
structure Extras where
  number : Layout → Int → Except Flaw Text
  member : Value → Text → Option Char → Except Flaw (Text → Except Flaw Text)

def Extras.none : Extras where
  number _ _ := .error .malformed
  member _ _ _ := .error .noMember

def layNumber (extras : Extras) (l : Layout) (n : Int) : Except Flaw Text := do
  let form := l.form.getD 'd'
  match base? form with
  | none => extras.number l n
  | some (base, announced) =>
      let size ← match l.mark with
        | none => pure none
        | some mark => some <$> groupSize form mark
      if l.precision.isSome || l.noNegativeZero then .error .malformed
      else if base = 10 && !decide (Numeral.Writable n) then .error .malformed
      else
        let digits := Nat.toDigits base n.natAbs
        let digits := if form = 'X' then digits.map Char.toUpper else digits
        let opening := signText l.sign (n < 0) ++ if l.alternate then announced else []
        let least := if l.fill = '0' && l.align = .inner then l.width - opening.length else 0
        match size, l.mark with
        | some size, some mark =>
            pure (pad l opening
              (groupDigits size mark (digits.length + least + 1) least digits.reverse).reverse)
        | _, _ => pure (pad l opening digits)

def layText (l : Layout) (s : Text) : Except Flaw Text :=
  if l.form.getD 's' = 's' && l.mark.isNone && l.sign.isNone && !l.noNegativeZero
      && !l.alternate && l.align ≠ .inner then
    .ok (pad l [] (s.take (l.precision.getD s.length)))
  else .error .malformed

def Value.lay (extras : Extras) (v : Value) (layout : Text) : Except Flaw Text :=
  if layout = [] then v.plain
  else match v with
    | .number n => do layNumber extras (← readLayout .right layout) n
    | .text s => do layText (← readLayout .left layout) s

end Rover.Template
