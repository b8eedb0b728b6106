import Rover.Folder
import Rover.Zone

namespace Rover.CommandLine

inductive Choice where
  | traced
  | colourless
  | size
  | file
  | program
  deriving DecidableEq, Repr

def Choice.takesValue : Choice → Bool
  | .traced => false
  | .colourless => false
  | .size => true
  | .file => true
  | .program => true

/-- The options of one part of a command line. `mixed` lets them stand among other words. -/
structure OptionSet where
  long : Text → Option Choice
  short : Char → Option Choice
  mixed : Bool

def general : OptionSet where
  long name :=
    if name = "--debug".toList then some .traced
    else if name = "--no-colors".toList then some .colourless
    else if name = "--board-size".toList then some .size
    else none
  short _ := none
  mixed := false

def ofTask : OptionSet where
  long name :=
    if name = "--input-file".toList then some .file
    else if name = "--input".toList then some .program
    else none
  short c := if c = 'f' then some .file else if c = 'i' then some .program else none
  mixed := true

def cutValue (word : Text) : Text × Option Text :=
  match word.dropWhile (· ≠ '=') with
  | [] => (word, none)
  | _ :: value => (word.takeWhile (· ≠ '='), some value)

inductive Word where
  | plain
  | wrong
  | choice (c : Choice)
  | valued (c : Choice) (value : Text)
  | awaiting (c : Choice)
  deriving DecidableEq, Repr

def chosen (c : Choice) (value : Option Text) : Word :=
  match c.takesValue, value with
  | false, none => .choice c
  | false, some _ => .wrong
  | true, some value => .valued c value
  | true, none => .awaiting c

/-- A long option comes first; after a single dash a letter may have its value behind it. -/
def OptionSet.word (o : OptionSet) : Text → Word
  | '-' :: c :: rest =>
      let (name, value) := cutValue ('-' :: c :: rest)
      match o.long name with
      | some choice => chosen choice value
      | none =>
          if c = '-' then .wrong
          else match o.short c with
            | some choice => chosen choice (if rest = [] then none else some rest)
            | none => .wrong
  | _ => .plain

def OptionSet.read (o : OptionSet) :
    List Text → Option (List (Choice × Text) × List Text)
  | [] => some ([], [])
  | word :: rest =>
      if word = ['-', '-'] then some ([], rest)
      else match o.word word with
        | .wrong => none
        | .plain =>
            if o.mixed then (o.read rest).map fun (options, words) => (options, word :: words)
            else some ([], word :: rest)
        | .choice c => (o.read rest).map fun (options, words) => ((c, []) :: options, words)
        | .valued c value =>
            (o.read rest).map fun (options, words) => ((c, value) :: options, words)
        | .awaiting c =>
            match rest with
            | [] => none
            | value :: rest =>
                (o.read rest).map fun (options, words) => ((c, value) :: options, words)

def last? (c : Choice) (options : List (Choice × Text)) : Option Text :=
  (options.reverse.find? (·.1 = c)).map (·.2)

inductive Task where
  | run
  | check
  deriving DecidableEq, Repr

def Task.ofWord? (word : Text) : Option Task :=
  if word = "run".toList then some .run
  else if word = "check".toList then some .check
  else none

inductive Source where
  | file (path : Text)
  | program (text : Text)
  | standard
  deriving DecidableEq, Repr

/-- A file comes before a program, unless its name is empty. -/
def Source.ofOptions (options : List (Choice × Text)) : Source :=
  match (last? .file options).filter (· ≠ []), last? .program options with
  | some path, _ => .file path
  | none, some text => .program text
  | none, none => .standard

structure Invocation where
  traced : Bool
  coloured : Bool
  size : Int
  task : Task
  source : Source
  deriving DecidableEq, Repr

/-- Why words make no invocation: they do not fit the options, or a file can have no such path. -/
inductive Misuse where
  | words
  | path
  deriving DecidableEq, Repr

def fitting {α : Type} : Option α → Except Misuse α
  | some a => .ok a
  | none => .error .words

/-- Reads a command line: options for all, a task, and its options. The path is looked at before
words left over are refused. -/
def Invocation.ofWords (words : List Text) : Except Misuse Invocation := do
  let (options, rest) ← fitting (general.read words)
  let size ← match last? .size options with
    | none => .ok (Zone.standard.size : Int)
    | some value => fitting (Numeral.parse? value)
  match rest with
  | [] => .error .words
  | word :: rest =>
      let task ← fitting (Task.ofWord? word)
      let (taskOptions, others) ← fitting (ofTask.read rest)
      if ¬ Folder.IsUsable ((last? .file taskOptions).getD []) then .error .path
      else if others ≠ [] then .error .words
      else
        .ok {
          traced := (last? .traced options).isSome
          coloured := (last? .colourless options).isNone
          size, task, source := Source.ofOptions taskOptions }

end Rover.CommandLine
