import Rover.Styled
import Rover.Text.Lines

namespace Rover

structure Place where
  line : Option Int
  content : Option Text
  source : Option Text
  deriving DecidableEq, Repr

namespace Place

def source? (p : Place) : Option Text := p.source.filter (· ≠ [])

def excerptWidth : Int := 30

def excerpt (width : Int) (content : Option Text) : Styled :=
  match content with
  | none => []
  | some s =>
      let shown := Text.escapeBreaks s
      if width < shown.length then
        Styled.plain (Text.slice shown 0 width) ++ Styled.inked .alert " ...".toList
      else Styled.plain shown

def styled (p : Place) : Styled :=
  match p.line, p.source? with
  | some n, source =>
      Styled.plain ((source.map (· ++ [':'])).getD [] ++ Numeral.ofInt n ++ ":\"".toList)
        ++ excerpt excerptWidth p.content ++ Styled.plain ['"']
  | none, some source => Styled.inked .alert source
  | none, none => Styled.plain "<Unknown location>".toList

def render (coloured : Bool) (p : Place) : Text := p.styled.render coloured

end Place

end Rover
