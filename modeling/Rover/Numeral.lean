import Rover.Text.Blank
import Rover.Text.DecimalDigit

namespace Rover.Numeral

/-- A number is read or written only if it has at most this many decimal digits. -/
def maxDigits : Nat := 4300

def isDigit (c : Char) : Bool := '0' ≤ c && c ≤ '9'

def sign : Text → Text
  | '+' :: _ => ['+']
  | '-' :: _ => ['-']
  | _ => []

def unsigned (s : Text) : Text := s.drop (sign s).length

theorem sign_append_unsigned (s : Text) : sign s ++ unsigned s = s := by
  unfold unsigned
  fun_cases sign s <;> rfl

def IsNumeral (s : Text) : Prop := unsigned s ≠ [] ∧ ∀ c ∈ unsigned s, isDigit c = true

instance (s : Text) : Decidable (IsNumeral s) :=
  @instDecidableAnd _ _ inferInstance (List.decidableBAll _ (unsigned s))

def scan (s : Text) : Text :=
  let digits := (unsigned s).takeWhile isDigit
  if digits = [] then [] else sign s ++ digits

def signed (s : Text) (n : Nat) : Int := if sign s = ['-'] then -n else n

def value (s : Text) : Int := signed s (Nat.ofDigitChars 10 (unsigned s) 0)

/-- The numeral is short enough to be read; leading zeros count. -/
def Readable (s : Text) : Prop := (unsigned s).length ≤ maxDigits

instance (s : Text) : Decidable (Readable s) := inferInstanceAs (Decidable (_ ≤ _))

def ofNat (n : Nat) : Text := Nat.toDigits 10 n

def ofInt : Int → Text
  | .ofNat n => ofNat n
  | .negSucc n => '-' :: ofNat (n + 1)

def Writable (n : Int) : Prop := (ofNat n.natAbs).length ≤ maxDigits

instance (n : Int) : Decidable (Writable n) := inferInstanceAs (Decidable (_ ≤ _))

/-- Decimal digits of any script, single underscores between them allowed. -/
def looseDigits : Text → Option Text
  | [] => none
  | [c] => (Text.digitValue? c).map fun d => [Nat.digitChar d]
  | c :: '_' :: rest => do
      let d ← Text.digitValue? c
      let digits ← looseDigits rest
      pure (Nat.digitChar d :: digits)
  | c :: rest => do
      let d ← Text.digitValue? c
      let digits ← looseDigits rest
      pure (Nat.digitChar d :: digits)

/-- A blank around a number on the command line; the four separators do not count. -/
def isPadding (c : Char) : Bool := Text.isBlank c && !(0x1C ≤ c.toNat && c.toNat ≤ 0x1F)

def parse? (s : Text) : Option Int := do
  let body := Text.trimEnd isPadding (s.dropWhile isPadding)
  let digits ← looseDigits (unsigned body)
  if digits.length ≤ maxDigits then some (signed body (Nat.ofDigitChars 10 digits 0)) else none

end Rover.Numeral
