import Rover.Text.Basic

namespace Rover.Text

def isBreak (c : Char) : Bool :=
  let n := c.toNat
  (0x0A ≤ n && n ≤ 0x0D) || (0x1C ≤ n && n ≤ 0x1E) || n == 0x85 || n == 0x2028 || n == 0x2029

/-- Cuts at every break, `cr` and `lf` in a row being one. A last break opens no further line. -/
def cutLines {α : Type} [DecidableEq α] (stop : α → Bool) (cr lf : α) : List α → List (List α)
  | [] => []
  | [a] => if stop a then [[]] else [[a]]
  | a :: b :: rest =>
      if a = cr ∧ b = lf then [] :: cutLines stop cr lf rest
      else if stop a then [] :: cutLines stop cr lf (b :: rest)
      else extend a (cutLines stop cr lf (b :: rest))

def lines (s : Text) : List Text := cutLines isBreak '\r' '\n' s

def rawLines (raw : List UInt8) : List (List UInt8) :=
  cutLines (fun b => b == 0x0A || b == 0x0D) 0x0D 0x0A raw

def cutAfter {α : Type} [DecidableEq α] (lf : α) : List α → List (List α)
  | [] => []
  | a :: rest => if a = lf then [a] :: cutAfter lf rest else extend a (cutAfter lf rest)

def uniformBreaks : Text → Text
  | [] => []
  | '\r' :: '\n' :: rest => '\n' :: uniformBreaks rest
  | c :: rest => (if c = '\r' then '\n' else c) :: uniformBreaks rest

def fileLines (s : Text) : List Text := cutAfter '\n' (uniformBreaks s)

def chomp (s : Text) : Text := trimEnd (fun c => c = '\r' || c = '\n') s

def unescapeBreaks : Text → Text
  | [] => []
  | '\\' :: 'n' :: rest => '\n' :: unescapeBreaks rest
  | c :: rest => c :: unescapeBreaks rest

/-- The lines of a program given in one argument, where a written `\n` ends a line too. -/
def inlineLines (s : Text) : List Text := lines (unescapeBreaks s)

def escapeBreaks (s : Text) : Text := replace '\r' ['\\', 'r'] (replace '\n' ['\\', 'n'] s)

end Rover.Text
