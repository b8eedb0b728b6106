import Rover.CommandLine.Options
import Rover.Feed

namespace Rover.CommandLine

structure Sources where
  openFile : Text → Except FileError Bytes
  standard : Bytes

inductive Escape where
  | stop (why : Stop)
  | undecodable
  deriving DecidableEq, Repr

structure Outcome where
  status : Nat
  shown : Text
  warnings : List Text
  escape : Option Escape
  deriving DecidableEq, Repr

def standardName : Text := "<stdin>".toList

def Source.stream (sources : Sources) : Source → Stream
  | .file path => .file path (sources.openFile path)
  | .program text => .given (.items ((Text.inlineLines text).map .text)) none
  | .standard => .file standardName (.ok sources.standard)

def readFailure (coloured : Bool) (d : Diagnostic) : Text :=
  Styled.printed coloured (Styled.entry .alert "Error reading commands.".toList [] 0 false)
    ++ Styled.onTerminal coloured (d.text coloured)

def showEntry (coloured : Bool) : Entry → Text
  | .trace line => Styled.printed coloured line
  | .output text => Styled.onTerminal false text
  | .warning _ => []

/-- Runs the lines. Its trace has colours if they are wanted; otherwise only the report of a read
failure may have them. -/
def run (i : Invocation) (sources : Sources) : Outcome :=
  match Size.zone (.whole i.size) with
  | .error e =>
      match e.message? with
      | some message => ⟨1, Styled.onTerminal false message, [], none⟩
      | none => ⟨1, [], [], some (.stop .broken)⟩
  | .ok zone =>
      let settings := { Settings.standard with zone, traced := i.traced }
      let coloured := i.coloured && i.traced
      let stretch := settings.process coloured State.initial (i.source.stream sources)
      let shown := stretch.log.flatMap (showEntry coloured)
      let warnings := stretch.log.filterMap Entry.warning?
      match stretch.ending with
      | .stopped (.unreadable d) => ⟨1, shown ++ readFailure i.coloured d, warnings, none⟩
      | .stopped why => ⟨1, shown, warnings, some (.stop why)⟩
      | _ => ⟨0, shown, warnings, none⟩

def faultsFrom (coloured : Bool) (source : Option Text) :
    Nat → List Text → Except Mishap (List Diagnostic)
  | _, [] => .ok []
  | number, line :: rest =>
      match Vocabulary.standard.read line with
      | .ok _ => faultsFrom coloured source (number + 1) rest
      | .error (.fault f) => do
          let others ← faultsFrom coloured source (number + 1) rest
          pure (⟨some ⟨some number, some line, source⟩, f.issue, coloured⟩ :: others)
      | .error (.mishap m) => .error m

def verdictOn (coloured : Bool) (faults : List Diagnostic) : Outcome :=
  let headline (ink : Ink) (s : Text) : Text :=
    Styled.printed coloured (Styled.entry ink s [] 0 false)
  match faults with
  | [] => ⟨0, headline .header "Commands OK.".toList, [], none⟩
  | _ =>
      let count :=
        if faults.length = 1 then "There is 1 malformed line.".toList
        else "There are ".toList ++ Numeral.ofNat faults.length ++ " malformed lines.".toList
      let reports := faults.flatMap fun d => Styled.onTerminal coloured (d.text coloured)
      ⟨1, headline .alert count ++ reports, [], none⟩

def checkLines (coloured : Bool) (source : Option Text) (lines : List Text) : Outcome :=
  match faultsFrom coloured source 1 lines with
  | .ok faults => verdictOn coloured faults
  | .error m => ⟨1, [], [], some (.stop (.crash (.unread m)))⟩

def wholeLines (content : Bytes) : Except Encoding.Flaw (List Text) :=
  (Encoding.utf8.decode content).map fun s => Text.lines (Text.uniformBreaks s)

def check (i : Invocation) (sources : Sources) : Outcome :=
  let unreadable (path cause : Text) : Outcome :=
    ⟨1, readFailure i.coloured
      ⟨some ⟨none, none, some path⟩, .unreadable cause, i.coloured⟩, [], none⟩
  match i.source with
  | .program text => checkLines i.coloured none (Text.inlineLines text)
  | .standard =>
      match wholeLines sources.standard with
      | .ok lines => checkLines i.coloured (some standardName) lines
      | .error _ => ⟨1, [], [], some .undecodable⟩
  | .file path =>
      match sources.openFile path with
      | .error e =>
          match e.text? path with
          | some cause => unreadable path cause
          | none => ⟨1, [], [], some (.stop .broken)⟩
      | .ok content =>
          match wholeLines content with
          | .error flaw => unreadable path flaw.text
          | .ok lines => checkLines i.coloured (some path) lines

/-- Carries out a command line. One whose words do not fit ends with status 2. -/
def perform (words : List Text) (sources : Sources) : Outcome :=
  match Invocation.ofWords words with
  | .error .words => ⟨2, [], [], none⟩
  | .error .path => ⟨1, [], [], some (.stop .broken)⟩
  | .ok i =>
      match i.task with
      | .run => run i sources
      | .check => check i sources

end Rover.CommandLine
