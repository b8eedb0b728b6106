import Rover.Text.LetterCase

namespace Rover.Text

def CapitalRun.covers (run : CapitalRun) (c : Char) : Bool :=
  run.first ≤ c.toNat && c.toNat ≤ run.last && (c.toNat - run.first) % run.step == 0

/-- The small form of a letter. Only the capital I with a dot needs two code points, the dot being
kept. -/
def smallForm (c : Char) : Text :=
  if c = 'İ' then ['i', '\u0307']
  else match capitalRuns.find? (·.covers c) with
    | some run => [Char.ofNat (c.toNat + run.shift).toNat]
    | none => [c]

def leadsToLetter (s : Text) : Bool :=
  match s.dropWhile (inRanges caselessMarkRanges) with
  | [] => false
  | c :: _ => inRanges casedRanges c

/-- Small letters for `s`, after the text whose reverse is `before`. A capital sigma that ends a
word becomes the final one. -/
def lowercaseAfter : Text → Text → Text
  | _, [] => []
  | before, c :: rest =>
      (if c = 'Σ' then
        if leadsToLetter before && !leadsToLetter rest then ['ς'] else ['σ']
      else smallForm c) ++ lowercaseAfter (c :: before) rest

def lowercase (s : Text) : Text := lowercaseAfter [] s

end Rover.Text
