import Rover.Chain
import Rover.Diagnostic
import Rover.Settings
import Rover.State

namespace Rover

/-- Why a line that is not malformed gives no answer. The last comes after the deed is done: the
trace breaks off at the state. -/
inductive Crash where
  | unread (m : Mishap)
  | template (flaw : Template.Flaw)
  | noPose
  | noArguments
  | noHandler
  | untold (why : State.Untold)
  deriving DecidableEq, Repr

structure Deed where
  state : State
  result : Except Crash (Option Text)

namespace Settings

def land (s : Settings) (st : State) (cell : Cell) (heading : Heading) : Deed :=
  match s.zone.verdict st.pits cell with
  | .free =>
      ⟨{ st with activated := true, position := some cell, heading := some heading }, .ok none⟩
  | v => ⟨st, .ok (s.wording.onVerdict v)⟩

/-- A pit is told right after a deployment or another pit, and not on the robot's own cell. It may
lie outside the zone. -/
def dig (s : Settings) (st : State) (cell? : Option Cell) : Deed :=
  if st.chain then
    match cell? with
    | none => ⟨st, .error .noArguments⟩
    | some cell =>
        if st.position = some cell then ⟨st, .ok s.wording.robot⟩
        else ⟨{ st with pits := st.pits.insert cell }, .ok none⟩
  else ⟨st, .ok none⟩

def advance (s : Settings) (st : State) : Deed :=
  match st.pose? with
  | none => ⟨st, .error .noPose⟩
  | some pose =>
      match s.zone.verdict st.pits (pose.cell.ahead pose.heading) with
      | .free => ⟨{ st with position := some (pose.cell.ahead pose.heading) }, .ok none⟩
      | v => ⟨st, .ok (s.wording.onVerdict v)⟩

def face (st : State) (turn : Heading → Heading) : Deed :=
  match st.heading with
  | none => ⟨st, .error .noPose⟩
  | some heading => ⟨{ st with heading := some (turn heading) }, .ok none⟩

def report (s : Settings) (st : State) : Except Crash (Option Text) :=
  if st.activated then
    match st.pose? with
    | none => .error .noPose
    | some pose =>
        match s.wording.reportOf pose with
        | .ok text => .ok (some text)
        | .error flaw => .error (.template flaw)
  else .ok none

/-- Does what a keyword stands for, where a command of the user's own took its place. -/
def obeyKeyword (s : Settings) (st : State) (keyword : Text) : Deed :=
  if keyword = Verb.keyword .move then s.advance st
  else if keyword = Verb.keyword .left then face st Heading.left
  else if keyword = Verb.keyword .right then face st Heading.right
  else if keyword = Verb.keyword .report then ⟨st, s.report st⟩
  else if keyword = Verb.keyword .pit then s.dig st none
  else if keyword = Verb.keyword .deploy then ⟨st, .error .noArguments⟩
  else ⟨st, .error .noHandler⟩

def obey (s : Settings) (st : State) : Command → Deed
  | .deploy cell heading => s.land st cell heading
  | .pit cell => s.dig st (some cell)
  | .move => s.advance st
  | .left => face st Heading.left
  | .right => face st Heading.right
  | .report => ⟨st, s.report st⟩
  | .custom keyword _ => s.obeyKeyword st keyword

def heeds (st : State) : Command → Bool
  | .deploy _ _ => true
  | _ => st.activated

def respond (s : Settings) (st : State) (c : Command) : Deed :=
  if heeds st c then
    match s.overrides.get? c.keyword with
    | some answer => ⟨st, .ok answer⟩
    | none => s.obey st c
  else ⟨st, .ok none⟩

/-- What a line does that was read as a command or refused. The chain is told of every line that
does not crash. -/
def heed (s : Settings) (st : State) : Except Refusal Command → Deed
  | .error (.mishap m) => ⟨st, .error (.unread m)⟩
  | .error (.fault _) => ⟨{ st with chain := Chain.after st.chain none }, .ok none⟩
  | .ok c =>
      let deed := s.respond st c
      match deed.result with
      | .error crash => ⟨deed.state, .error crash⟩
      | .ok output =>
          ⟨{ deed.state with chain := Chain.after deed.state.chain c }, .ok output⟩

end Settings

structure Turn where
  state : State
  result : Except Crash (Option Text)
  warnings : List Text
  trace : List Styled

namespace Settings

def placeOf (st : State) (line : Text) : Place :=
  ⟨some st.lineNumber, some (Text.chomp line), st.source⟩

def warningsOf (st : State) (line : Text) : Except Refusal Command → List Text
  | .error (.fault f) =>
      ["Skipping line ".toList ++ Numeral.ofNat st.lineNumber ++ ":\"".toList ++ Text.chomp line
        ++ "\": ".toList ++ f.message]
  | _ => []

def note (ink : Ink) (title content : Text) : Styled :=
  Styled.entry ink title (Styled.plain content) 1 false

def ignored? (s : Settings) (st : State) (c : Command) : Option Text :=
  if heeds st c then
    if c.keyword = Verb.keyword .pit ∧ s.overrides.get? c.keyword = none ∧ st.chain = false then
      some "PIT must follow DEPLOY or PIT.".toList
    else none
  else some "robot not deployed.".toList

def accountOf (s : Settings) (st : State) (deed : Deed) : Except Refusal Command → List Styled
  | .error (.mishap _) => []
  | .error (.fault f) => [note .alert "Skipped:".toList f.message]
  | .ok c =>
      (s.ignored? st c).toList.map (note .accent "Ignored:".toList)
        ++ match deed.result with
          | .error _ => []
          | .ok output =>
              [note .header "Command:".toList c.text]
                ++ output.toList.map (note .header "Output:".toList)
                ++ deed.state.summary.toOption.toList.map (note .header "State:".toList)

/-- What a deed results in when it is told by the trace, which tells the state after a command. -/
def tell (s : Settings) (deed : Deed) : Except Refusal Command → Except Crash (Option Text)
  | .error _ => deed.result
  | .ok _ => do
      let output ← deed.result
      if s.traced then
        match deed.state.summary with
        | .ok _ => pure output
        | .error why => .error (.untold why)
      else pure output

/-- Reads one line and does what it asks for. A malformed line is passed over with a warning. -/
def execute (s : Settings) (before : State) (line : Text) : Turn :=
  let st := { before with lineNumber := before.lineNumber + 1 }
  let reading := s.vocabulary.read line
  let deed := s.heed st reading
  { state := deed.state
    result := s.tell deed reading
    warnings := warningsOf st line reading
    trace :=
      if s.traced then
        Styled.entry .header "Line".toList (placeOf st line).styled 0 true
          :: s.accountOf st deed reading
      else [] }

end Settings

end Rover
