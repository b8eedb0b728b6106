import Rover.Numeral
import Rover.Text.Escape

namespace Rover

inductive Ink where
  | alert
  | header
  | accent
  deriving DecidableEq, Repr

def Ink.opening : Ink → Text
  | .alert => "\x1b[31m\x1b[1m".toList
  | .header => "\x1b[32m".toList
  | .accent => "\x1b[33m".toList

def Ink.closing : Text := "\x1b[0m".toList

structure Span where
  ink : Option Ink
  text : Text
  deriving DecidableEq, Repr

/-- Text whose parts may have an ink, which shows only where colours are on. -/
abbrev Styled := List Span

namespace Styled

def plain (s : Text) : Styled := [⟨none, s⟩]

def inked (ink : Ink) (s : Text) : Styled := [⟨some ink, s⟩]

def text (s : Styled) : Text := s.flatMap Span.text

def render (coloured : Bool) (s : Styled) : Text :=
  s.flatMap fun span =>
    match coloured, span.ink with
    | true, some ink => ink.opening ++ span.text ++ Ink.closing
    | _, _ => span.text

theorem render_false (s : Styled) : s.render false = s.text := rfl

theorem render_append (coloured : Bool) (s t : Styled) :
    render coloured (s ++ t) = s.render coloured ++ t.render coloured := by
  simp [render]

/-- A text as a terminal line shows it: without colours, it loses all its control sequences. -/
def onTerminal (coloured : Bool) (s : Text) : Text :=
  (if coloured then s else Text.dropControls s) ++ ['\n']

def printed (coloured : Bool) (s : Styled) : Text := onTerminal coloured (s.render coloured)

def entry (ink : Ink) (title : Text) (content : Styled) (level : Int) (spaced : Bool) : Styled :=
  plain ((if spaced then ['\n'] else []) ++ List.replicate level.toNat '\t')
    ++ inked ink title
    ++ if content.text = [] then [] else plain [' '] ++ content

end Styled

end Rover
