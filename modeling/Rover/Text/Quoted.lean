import Rover.Text.Printable

namespace Rover.Text

def hex (width n : Nat) : Text :=
  let digits := Nat.toDigits 16 n
  List.replicate (width - digits.length) '0' ++ digits

/-- The quote that needs no escape: double if the text holds single quotes only. -/
def quoteFor (s : Text) : Char := if '\'' ∈ s && '"' ∉ s then '"' else '\''

def quoteChar (q c : Char) : Text :=
  if c = q || c = '\\' then ['\\', c]
  else if c = '\n' then ['\\', 'n']
  else if c = '\r' then ['\\', 'r']
  else if c = '\t' then ['\\', 't']
  else if isPrintable c then [c]
  else if c.toNat < 0x100 then ['\\', 'x'] ++ hex 2 c.toNat
  else if c.toNat < 0x10000 then ['\\', 'u'] ++ hex 4 c.toNat
  else ['\\', 'U'] ++ hex 8 c.toNat

def quoted (s : Text) : Text :=
  let q := quoteFor s
  q :: s.flatMap (quoteChar q) ++ [q]

end Rover.Text
