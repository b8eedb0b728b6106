import Rover.Stream
import Rover.Turn

namespace Rover

inductive Entry where
  | trace (line : Styled)
  | warning (text : Text)
  | output (text : Text)
  deriving DecidableEq, Repr

namespace Entry

def trace? : Entry → Option Styled
  | .trace line => some line
  | _ => none

def warning? : Entry → Option Text
  | .warning text => some text
  | _ => none

def output? : Entry → Option Text
  | .output text => some text
  | _ => none

end Entry

def Turn.entries (t : Turn) : List Entry := t.trace.map .trace ++ t.warnings.map .warning

inductive Stop where
  | unreadable (d : Diagnostic)
  | crash (c : Crash)
  | broken
  deriving DecidableEq, Repr

inductive Ending where
  | paused
  | finished
  | stopped (why : Stop)
  deriving DecidableEq, Repr

/-- A stretch of a run: where it left the rover, what it let out, the items it left over and the
number of those it took. -/
structure Stretch where
  state : State
  log : List Entry
  rest : List Item
  taken : Nat
  ending : Ending

namespace Stretch

def outputs (s : Stretch) : List Text := s.log.filterMap Entry.output?

def preceded (entries : List Entry) (s : Stretch) : Stretch :=
  { s with log := entries ++ s.log, taken := s.taken + 1 }

def whole (s : Stretch) : Except Stop (List Text) :=
  match s.ending with
  | .stopped why => .error why
  | _ => .ok s.outputs

end Stretch

namespace Settings

def lineOf (s : Settings) : Item → Except (Option Text) Text
  | .text line => .ok line
  | .raw line =>
      match s.encoding.decode line with
      | .ok text => .ok text
      | .error flaw => .error (some flaw.text)
  | .unreadable cause => .error (some cause)
  | .broken => .error none

def unreadable (coloured : Bool) (st : State) (cause : Text) : Diagnostic :=
  ⟨some ⟨some (st.lineNumber + 1), none, st.source⟩, .unreadable cause, coloured⟩

def announce (s : Settings) (title : Text) : List Entry :=
  if s.traced then [.trace (Styled.entry .alert title [] 0 true)] else []

/-- Executes items until `quota` outputs are out, one item at a time. -/
def advanceBy (s : Settings) (coloured : Bool) : Nat → State → List Item → Stretch
  | 0, st, items => ⟨st, [], items, 0, .paused⟩
  | _ + 1, st, [] => ⟨st, s.announce "*** INTERPRETING FINISHED".toList, [], 0, .finished⟩
  | quota + 1, st, item :: rest =>
      match s.lineOf item with
      | .error (some cause) =>
          ⟨st, [], rest, 1, .stopped (.unreadable (unreadable coloured st cause))⟩
      | .error none => ⟨st, [], rest, 1, .stopped .broken⟩
      | .ok line =>
          let turn := s.execute st line
          match turn.result with
          | .error c => ⟨turn.state, turn.entries, rest, 1, .stopped (.crash c)⟩
          | .ok none => (s.advanceBy coloured (quota + 1) turn.state rest).preceded turn.entries
          | .ok (some output) =>
              (s.advanceBy coloured quota turn.state rest).preceded
                (turn.entries ++ [.output output])

def opening (s : Settings) (st : State) (source : Option Text) : State :=
  { (if s.keepsState then st else st.reset) with lineNumber := 0, source }

end Settings

inductive Feed where
  | waiting (stream : Stream)
  | running (rest : List Item)
  | spent

namespace Feed

def after (s : Stretch) : Feed :=
  match s.ending with
  | .paused => .running s.rest
  | _ => .spent

def unopened (coloured : Bool) (name : Text) (e : FileError) : Stop :=
  match e.text? name with
  | some cause => .unreadable ⟨some ⟨none, none, some name⟩, .unreadable cause, coloured⟩
  | none => .broken

def begin (s : Settings) (coloured : Bool) (quota : Nat) (st : State) (items : List Item)
    (source : Option Text) : Stretch :=
  let stretch := s.advanceBy coloured quota (s.opening st source) items
  { stretch with log := s.announce "*** INTERPRETING STARTED".toList ++ stretch.log }

/-- Runs until `quota` outputs are out. A file that fails to open leaves the rover as it was. -/
def run (s : Settings) (coloured : Bool) (quota : Nat) (st : State) : Feed → Stretch
  | .spent => ⟨st, [], [], 0, .finished⟩
  | .running rest => s.advanceBy coloured quota st rest
  | .waiting (.given input source) => begin s coloured quota st input.toItems source
  | .waiting (.file name (.ok content)) =>
      begin s coloured quota st (s.encoding.fileItems content) (some name)
  | .waiting (.file name (.error e)) => ⟨st, [], [], 0, .stopped (unopened coloured name e)⟩

def resume (s : Settings) (coloured : Bool) (quota : Nat) (st : State) (feed : Feed) :
    Stretch × Feed :=
  if quota = 0 then (⟨st, [], [], 0, .paused⟩, feed)
  else
    let stretch := run s coloured quota st feed
    (stretch, after stretch)

end Feed

def Settings.enough (s : Settings) : Stream → Nat
  | .given input _ => input.toItems.length + 1
  | .file _ (.ok content) => (s.encoding.fileItems content).length + 1
  | .file _ (.error _) => 1

def Settings.process (s : Settings) (coloured : Bool) (st : State) (stream : Stream) : Stretch :=
  Feed.run s coloured (s.enough stream) st (.waiting stream)

end Rover
