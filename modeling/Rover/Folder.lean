import Rover.Encoding
import Rover.Table

namespace Rover

inductive FileError where
  | missing
  | isFolder
  | notFolder
  | tooLong
  | unusable
  deriving DecidableEq, Repr

/-- What is said of a path that cannot be opened; of one that no file can have, nothing. -/
def FileError.text? (path : Text) : FileError → Option Text
  | .missing => some ("[Errno 2] No such file or directory: ".toList ++ Text.quoted path)
  | .isFolder => some ("[Errno 21] Is a directory: ".toList ++ Text.quoted path)
  | .notFolder => some ("[Errno 20] Not a directory: ".toList ++ Text.quoted path)
  | .tooLong => some ("[Errno 36] File name too long: ".toList ++ Text.quoted path)
  | .unusable => none

structure Folder where
  files : Table Bytes
  folders : List Text

inductive Folder.Spot where
  | above (levels : Nat)
  | inside (names : List Text)
  | file (content : Bytes)

namespace Folder

def Spot.here : Spot := .inside []

def maxName : Nat := 255

def maxPath : Nat := 4095

/-- A path ends at the character U+0000 for the system, so none can hold it. -/
def IsUsable (path : Text) : Prop := Char.ofNat 0 ∉ path

instance (path : Text) : Decidable (IsUsable path) := inferInstanceAs (Decidable (_ ∉ _))

def hasFolder (f : Folder) (path : Text) : Bool :=
  f.folders.contains path || (f.files.keys ++ f.folders).any ((path ++ ['/']).isPrefixOf ·)

/-- Follows one name. What lies above holds nothing but the way back. -/
def follow (f : Folder) (spot : Spot) (name : Text) : Except FileError Spot :=
  match spot with
  | .file _ => .error .notFolder
  | .above levels =>
      if name = [] || name = ['.'] then .ok spot
      else if name = ['.', '.'] then .ok (.above (levels + 1))
      else if maxName < Text.byteCount name then .error .tooLong
      else .error .missing
  | .inside names =>
      if name = [] || name = ['.'] then .ok spot
      else if name = ['.', '.'] then
        if names = [] then .ok (.above 1) else .ok (.inside names.dropLast)
      else if maxName < Text.byteCount name then .error .tooLong
      else
        let path := ['/'].intercalate (names ++ [name])
        match f.files.get? path with
        | some content => .ok (.file content)
        | none => if f.hasFolder path then .ok (.inside (names ++ [name])) else .error .missing

def read? (f : Folder) (path : Text) : Except FileError Bytes :=
  if ¬ IsUsable path then .error .unusable
  else if path = [] then .error .missing
  else if maxPath < Text.byteCount path then .error .tooLong
  else
    let start := if path.head? = some '/' then Spot.above 0 else Spot.here
    match (Text.splitAt '/' path).foldlM f.follow start with
    | .ok (.file content) => .ok content
    | .ok _ => .error .isFolder
    | .error e => .error e

end Folder

end Rover
