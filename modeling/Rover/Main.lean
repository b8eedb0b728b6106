import Rover.CommandLine.Run

namespace Rover.CommandLine

/-- The system numbers a folder 21 and a long name 36, or the negatives of these. -/
def toFileError : IO.Error → FileError
  | .inappropriateType _ code _ => if code = 21 || code = 0 - 21 then .isFolder else .notFolder
  | .invalidArgument _ code _ => if code = 36 || code = 0 - 36 then .tooLong else .missing
  | _ => .missing

def readFile (path : Text) : IO (Except FileError Bytes) := do
  try
    return .ok (← IO.FS.readBinFile (String.ofList path)).toList
  catch e =>
    return .error (toFileError e)

def sourcesOf : Option Invocation → IO Sources
  | none => return ⟨fun _ => .error .missing, []⟩
  | some i =>
      match i.source with
      | .file path => do
          let content ← readFile path
          return ⟨fun _ => content, []⟩
      | .program _ => return ⟨fun _ => .error .missing, []⟩
      | .standard => do
          let content ← (← IO.getStdin).readBinToEnd
          return ⟨fun _ => .error .missing, content.toList⟩

def usage : String :=
  "Usage: rover [--debug] [--no-colors] [--board-size N] run|check [-f FILE] [-i PROGRAM]"

end Rover.CommandLine

open Rover Rover.CommandLine in
def main (words : List String) : IO UInt32 := do
  let words := words.map String.toList
  let outcome := perform words (← sourcesOf (Invocation.ofWords words).toOption)
  IO.print (String.ofList outcome.shown)
  for warning in outcome.warnings do
    IO.eprintln (String.ofList warning)
  if outcome.escape.isSome then
    IO.eprintln "The input could not be processed."
  if outcome.status = 2 then
    IO.eprintln usage
  return outcome.status.toUInt32
