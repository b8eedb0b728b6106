import Rover.Numeral
import Rover.Text.Quoted

namespace Rover

abbrev Bytes := List UInt8

inductive Encoding where
  | utf8
  | ascii
  | latin1
  deriving DecidableEq, Repr

namespace Encoding

def label : Encoding → Text
  | .utf8 => "utf-8".toList
  | .ascii => "ascii".toList
  | .latin1 => "latin-1".toList

inductive Defect where
  | start
  | continuation
  | truncated
  | range
  deriving DecidableEq, Repr

def Defect.text : Defect → Text
  | .start => "invalid start byte".toList
  | .continuation => "invalid continuation byte".toList
  | .truncated => "unexpected end of data".toList
  | .range => "ordinal not in range(128)".toList

structure Flaw where
  encoding : Encoding
  first : UInt8
  position : Nat
  size : Nat
  defect : Defect
  deriving DecidableEq, Repr

def Flaw.place (f : Flaw) : Text :=
  if f.size = 1 then
    "byte 0x".toList ++ Text.hex 2 f.first.toNat ++ " in position ".toList
      ++ Numeral.ofNat f.position
  else
    "bytes in position ".toList ++ Numeral.ofNat f.position ++ "-".toList
      ++ Numeral.ofNat (f.position + f.size - 1)

def Flaw.text (f : Flaw) : Text :=
  "'".toList ++ f.encoding.label ++ "' codec can't decode ".toList ++ f.place ++ ": ".toList
    ++ f.defect.text

inductive Step where
  | char (c : Char) (size : Nat)
  | bad (size : Nat) (defect : Defect)
  deriving DecidableEq, Repr

def isContinuation (b : UInt8) : Bool := 0x80 ≤ b && b ≤ 0xBF

def isSecondOfThree (a b : UInt8) : Bool :=
  isContinuation b && (a != 0xE0 || 0xA0 ≤ b) && (a != 0xED || b ≤ 0x9F)

def isSecondOfFour (a b : UInt8) : Bool :=
  isContinuation b && (a != 0xF0 || 0x90 ≤ b) && (a != 0xF4 || b ≤ 0x8F)

def low (b : UInt8) : Nat := b.toNat % 0x40

/-- One form of one to four bytes. A bad form ends before the first byte that cannot continue it. -/
def stepUtf8 (a : UInt8) (rest : Bytes) : Step :=
  if a < 0x80 then .char (Char.ofNat a.toNat) 1
  else if a < 0xC2 then .bad 1 .start
  else if a < 0xE0 then
    match rest with
    | [] => .bad 1 .truncated
    | b :: _ =>
        if isContinuation b then .char (Char.ofNat (a.toNat % 0x20 * 0x40 + low b)) 2
        else .bad 1 .continuation
  else if a < 0xF0 then
    match rest with
    | [] => .bad 1 .truncated
    | b :: rest =>
        if isSecondOfThree a b then
          match rest with
          | [] => .bad 2 .truncated
          | c :: _ =>
              if isContinuation c then
                .char (Char.ofNat (a.toNat % 0x10 * 0x1000 + low b * 0x40 + low c)) 3
              else .bad 2 .continuation
        else .bad 1 .continuation
  else if a < 0xF5 then
    match rest with
    | [] => .bad 1 .truncated
    | b :: rest =>
        if isSecondOfFour a b then
          match rest with
          | [] => .bad 2 .truncated
          | c :: rest =>
              if isContinuation c then
                match rest with
                | [] => .bad 3 .truncated
                | d :: _ =>
                    if isContinuation d then
                      .char (Char.ofNat
                        (a.toNat % 0x08 * 0x40000 + low b * 0x1000 + low c * 0x40 + low d)) 4
                    else .bad 3 .continuation
              else .bad 2 .continuation
        else .bad 1 .continuation
  else .bad 1 .start

def step : Encoding → UInt8 → Bytes → Step
  | .utf8, a, rest => stepUtf8 a rest
  | .ascii, a, _ => if a < 0x80 then .char (Char.ofNat a.toNat) 1 else .bad 1 .range
  | .latin1, a, _ => .char (Char.ofNat a.toNat) 1

/-- Decodes from `position` on, passing over the first `skip` bytes, which belong to the character
before them. -/
def decodeFrom (e : Encoding) : Nat → Nat → Bytes → Text × Option Flaw
  | _, _, [] => ([], none)
  | position, skip + 1, _ :: rest => decodeFrom e (position + 1) skip rest
  | position, 0, a :: rest =>
      match e.step a rest with
      | .bad size defect => ([], some ⟨e, a, position, size, defect⟩)
      | .char c size =>
          let (s, flaw) := decodeFrom e (position + 1) (size - 1) rest
          (c :: s, flaw)

def decodeUntilFlaw (e : Encoding) (raw : Bytes) : Text × Option Flaw := decodeFrom e 0 0 raw

def decode (e : Encoding) (raw : Bytes) : Except Flaw Text :=
  match e.decodeUntilFlaw raw with
  | (s, none) => .ok s
  | (_, some flaw) => .error flaw

end Encoding

end Rover
