import Rover.Folder
import Rover.Text.Lines

namespace Rover

inductive Item where
  | text (line : Text)
  | raw (line : Bytes)
  | unreadable (cause : Text)
  | broken
  deriving DecidableEq, Repr

/-- A source of lines. A text or bytes at once have their lines without breaks; those of a stream
keep the line feed, the only break there. -/
inductive Input where
  | text (s : Text)
  | raw (b : Bytes)
  | textStream (s : Text)
  | rawStream (b : Bytes)
  | items (given : List Item)
  deriving DecidableEq, Repr

def Input.toItems : Input → List Item
  | .text s => (Text.lines s).map .text
  | .raw b => (Text.rawLines b).map .raw
  | .textStream s => (Text.cutAfter '\n' s).map .text
  | .rawStream b => (Text.cutAfter 0x0A b).map .raw
  | .items given => given

/-- The lines of `s` that have ended for certain when what follows cannot be read: a carriage
return at the end may yet be half of a line end. -/
def endedLines (s : Text) : List Text :=
  (Text.fileLines (if s.getLast? = some '\r' then s.dropLast else s)).filter
    (·.getLast? = some '\n')

/-- The bytes from a flaw on wait for more of them: they are cut off, or they are two of the three
bytes of a surrogate, which only the third would refuse. -/
def Encoding.Flaw.waits (f : Flaw) (pending : Bytes) : Bool :=
  match f.defect, pending with
  | .truncated, _ => true
  | .continuation, [a, b] => a == 0xED && isContinuation b
  | _, _ => false

namespace Encoding

def chunkSize : Nat := 8192

def chunks (content : Bytes) : List Bytes :=
  (List.range ((content.length + chunkSize - 1) / chunkSize)).map fun i =>
    (content.drop (i * chunkSize)).take chunkSize

/-- Decodes chunk by chunk. Bytes that wait for more stand before the next chunk, and are bad after
the last; positions count from the first of them. The chunk with bad bytes gives no text. -/
def decodeChunks (e : Encoding) : Bytes → List Bytes → Text × Option Flaw
  | pending, [] => e.decodeUntilFlaw pending
  | pending, chunk :: rest =>
      match e.decodeUntilFlaw (pending ++ chunk) with
      | (s, none) =>
          let (t, flaw) := e.decodeChunks [] rest
          (s ++ t, flaw)
      | (s, some flaw) =>
          let left := (pending ++ chunk).drop flaw.position
          if flaw.waits left then
            let (t, flaw) := e.decodeChunks left rest
            (s ++ t, flaw)
          else ([], some flaw)

/-- The lines of an open file. It is decoded ahead by a chunk, so that bad bytes fail before the
lines of their chunk, and after those that have ended in the chunks before. -/
def fileItems (e : Encoding) (content : Bytes) : List Item :=
  match e.decodeChunks [] (chunks content) with
  | (s, none) => (Text.fileLines s).map .text
  | (s, some flaw) => (endedLines s).map .text ++ [.unreadable flaw.text]

end Encoding

inductive Stream where
  | given (input : Input) (source : Option Text)
  | file (name : Text) (content : Except FileError Bytes)

end Rover
