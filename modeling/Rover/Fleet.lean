import Rover.Feed

namespace Rover

/-- What a vehicle is wished to be. Making it turns the colours of all vehicles on or off. -/
structure Plan where
  size : Size
  wording : Wording
  vocabulary : Vocabulary
  overrides : Table (Option Text)
  encoding : Encoding
  keepsState : Bool
  traced : Bool
  coloured : Bool

def Plan.settings (p : Plan) (zone : Zone) : Settings where
  zone
  wording := p.wording
  vocabulary := p.vocabulary
  overrides := p.overrides
  encoding := p.encoding
  keepsState := p.keepsState
  traced := p.traced

structure Vehicle where
  settings : Settings
  state : State

structure Run where
  vehicle : Nat
  feed : Feed
  taken : Nat

/-- Vehicles and their runs, both known by number, and the colours that they share. -/
structure Fleet where
  coloured : Bool
  vehicles : List Vehicle
  runs : List Run

inductive Errand where
  | execute (line : Text)
  | executeAll (lines : List Text)
  | process (stream : Stream)
  | start (stream : Stream)
  | report
  | reset
  | dig (cell : Cell)

inductive Request where
  | make (plan : Plan)
  | colour (on : Bool)
  | send (vehicle : Nat) (errand : Errand)
  | next (run : Nat) (quota : Nat)
  | close (run : Nat)

/-- What a request is answered: `absent` if it names a vehicle or a run that does not exist. -/
inductive Answer where
  | done
  | absent
  | output (text : Option Text)
  | outputs (texts : List (Option Text))
  | stretch (s : Stretch) (taken : Nat)
  | crash (c : Crash)
  | refused (e : SetupError)

structure Reply where
  answer : Answer
  log : List Entry

def Settings.executeAll (s : Settings) :
    State → List Text → State × List Entry × Except Crash (List (Option Text))
  | st, [] => (st, [], .ok [])
  | st, line :: rest =>
      let turn := s.execute st line
      match turn.result with
      | .error c => (turn.state, turn.entries, .error c)
      | .ok output =>
          let (after, log, outputs) := s.executeAll turn.state rest
          (after, turn.entries ++ log, outputs.map (output :: ·))

namespace Fleet

def empty : Fleet := ⟨false, [], []⟩

/-- Makes a vehicle. A size that is refused leaves the colours alone; a keyword that nothing handles
is found after they were set. -/
def make (f : Fleet) (p : Plan) : Fleet × Answer :=
  match p.size.zone with
  | .error e => (f, .refused e)
  | .ok zone =>
      let f := { f with coloured := p.coloured }
      match (p.settings zone).checked with
      | .error e => (f, .refused e)
      | .ok settings => ({ f with vehicles := f.vehicles ++ [⟨settings, State.initial⟩] }, .done)

def setState (f : Fleet) (i : Nat) (st : State) : Fleet :=
  { f with vehicles := f.vehicles.modify i fun v => { v with state := st } }

def setRun (f : Fleet) (i : Nat) (run : Run) : Fleet := { f with runs := f.runs.set i run }

def answerOf : Except Crash (Option Text) → Answer
  | .ok output => .output output
  | .error c => .crash c

def carryOut (f : Fleet) (i : Nat) (v : Vehicle) : Errand → Fleet × Reply
  | .execute line =>
      let turn := v.settings.execute v.state line
      (f.setState i turn.state, ⟨answerOf turn.result, turn.entries⟩)
  | .executeAll lines =>
      let (st, log, outputs) := v.settings.executeAll v.state lines
      (f.setState i st,
        ⟨match outputs with
          | .ok outputs => .outputs outputs
          | .error c => .crash c, log⟩)
  | .process stream =>
      let stretch := v.settings.process f.coloured v.state stream
      (f.setState i stretch.state, ⟨.stretch stretch stretch.taken, stretch.log⟩)
  | .start stream => ({ f with runs := f.runs ++ [⟨i, .waiting stream, 0⟩] }, ⟨.done, []⟩)
  | .report => (f, ⟨answerOf (v.settings.report v.state), []⟩)
  | .reset => (f.setState i v.state.reset, ⟨.done, []⟩)
  | .dig cell => (f.setState i { v.state with pits := v.state.pits.insert cell }, ⟨.done, []⟩)

def next (f : Fleet) (i : Nat) (run : Run) (v : Vehicle) (quota : Nat) : Fleet × Reply :=
  let (stretch, feed) := run.feed.resume v.settings f.coloured quota v.state
  let taken := run.taken + stretch.taken
  ((f.setState run.vehicle stretch.state).setRun i { run with feed, taken },
    ⟨.stretch stretch taken, stretch.log⟩)

def serve (f : Fleet) : Request → Fleet × Reply
  | .make plan =>
      let (f, answer) := f.make plan
      (f, ⟨answer, []⟩)
  | .colour on => ({ f with coloured := on }, ⟨.done, []⟩)
  | .send i errand =>
      match f.vehicles[i]? with
      | some v => f.carryOut i v errand
      | none => (f, ⟨.absent, []⟩)
  | .next i quota =>
      match f.runs[i]? with
      | none => (f, ⟨.absent, []⟩)
      | some run =>
          match f.vehicles[run.vehicle]? with
          | some v => f.next i run v quota
          | none => (f, ⟨.absent, []⟩)
  | .close i =>
      match f.runs[i]? with
      | some run => (f.setRun i { run with feed := .spent }, ⟨.done, []⟩)
      | none => (f, ⟨.absent, []⟩)

end Fleet

namespace Reply

def shown (coloured : Bool) (r : Reply) : Text :=
  (r.log.filterMap Entry.trace?).flatMap (Styled.printed coloured)

def warnings (r : Reply) : List Text := r.log.filterMap Entry.warning?

end Reply

end Rover
