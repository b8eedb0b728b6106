import Rover.Wording

namespace Rover

/-- What a rover remembers: whether the robot is deployed, where it stands and looks, the pits,
whether the next line may tell a pit, how many lines of the source were read, and the name of the
source. -/
structure State where
  activated : Bool
  position : Option Cell
  heading : Option Heading
  pits : Pits
  chain : Bool
  lineNumber : Nat
  source : Option Text
  deriving DecidableEq

namespace State

def initial : State := ⟨false, none, none, Pits.empty, false, 0, none⟩

def reset (st : State) : State := { initial with source := st.source }

def pose? (st : State) : Option Pose :=
  match st.position, st.heading with
  | some cell, some heading => some ⟨cell, heading⟩
  | _, _ => none

inductive Untold where
  | noHeading
  | overlong
  deriving DecidableEq, Repr

def cellText : Option Cell → Except Untold Text
  | none => .ok "None".toList
  | some cell => if cell.IsWritable then .ok cell.text else .error .overlong

def summary (st : State) : Except Untold Text :=
  if st.activated then
    match st.heading with
    | none => .error .noHeading
    | some heading => do
        let cell ← cellText st.position
        pure (cell ++ [' '] ++ heading.label ++ " pits=".toList ++ Numeral.ofNat st.pits.size)
  else .ok "not deployed".toList

end State

end Rover
