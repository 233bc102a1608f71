import ClassDiagram.Text.Surrogate

/-!
# UTF-8

Reading bytes as text: no overlong form, nothing beyond the last character, and a report of the
first bytes that are none. Surrogates are refused too, unless they are tolerated.

* `Utf8.decode` reads bytes, `Utf8.decodeTolerant` tolerates surrogates;
* `Utf8.Fault` says which bytes cannot be read, `Utf8.Fault.message` words it;
* `Utf8.encode` writes a text as bytes.
-/

namespace ClassDiagram.Utf8

/-- Why bytes are no character. -/
inductive Reason where
  /-- No character starts with such a byte. -/
  | invalidStart
  /-- A byte that has to follow does not. -/
  | invalidContinuation
  /-- The bytes end within a character. -/
  | endOfData
deriving DecidableEq, Repr

/-- Bytes that are no character. -/
structure Fault where
  /-- The first of them. -/
  byte : UInt8
  /-- How many bytes stand before them. -/
  start : Nat
  /-- How many they are. -/
  length : Nat
  /-- Why they are none. -/
  reason : Reason
deriving DecidableEq, Repr

/-- What the first byte of a character says: how many bytes follow, the bounds of the next one, and
the leading bits of the code. -/
structure Lead where
  /-- How many bytes follow. -/
  following : Nat
  /-- The least byte that may follow. -/
  least : UInt8
  /-- The greatest byte that may follow. -/
  greatest : UInt8
  /-- The leading bits of the code. -/
  bits : Nat
deriving DecidableEq, Repr

/-- What a first byte says, if a character may start with it. -/
def lead? (surrogates : Bool) (b : UInt8) : Option Lead :=
  if b < 0x80 then some ⟨0, 0x80, 0xBF, b.toNat⟩
  else if b < 0xC2 then none
  else if b < 0xE0 then some ⟨1, 0x80, 0xBF, b.toNat - 0xC0⟩
  else if b < 0xF0 then
    some ⟨2, if b = 0xE0 then 0xA0 else 0x80, if b = 0xED && !surrogates then 0x9F else 0xBF,
      b.toNat - 0xE0⟩
  else if b < 0xF5 then
    some ⟨3, if b = 0xF0 then 0x90 else 0x80, if b = 0xF4 then 0x8F else 0xBF, b.toNat - 0xF0⟩
  else none

/-- The code of a character of which `count` bytes are missing, or why there is none and how many
bytes are good until there. -/
def continuation (count : Nat) (least greatest : UInt8) (bits good : Nat) :
    List UInt8 → Except (Reason × Nat) Nat
  | bs =>
    match count, bs with
    | 0, _ => .ok bits
    | _ + 1, [] => .error (.endOfData, good)
    | count + 1, b :: bs =>
      if least ≤ b && b ≤ greatest then
        continuation count 0x80 0xBF (bits * 64 + (b.toNat - 0x80)) (good + 1) bs
      else .error (.invalidContinuation, good)

/-- The characters of bytes, of which `start` are past. -/
def decodeFrom (surrogates : Bool) (start : Nat) : List UInt8 → Except Fault (List Char)
  | [] => .ok []
  | b :: bs =>
    match lead? surrogates b with
    | none => .error ⟨b, start, 1, .invalidStart⟩
    | some lead =>
      match continuation lead.following lead.least lead.greatest lead.bits 0 bs with
      | .error (reason, good) => .error ⟨b, start, 1 + good, reason⟩
      | .ok code =>
        (decodeFrom surrogates (start + 1 + lead.following) (bs.drop lead.following)).map
          (Text.charOfCode code :: ·)
termination_by bs => bs.length

/-- The text that bytes are. -/
def decode (bs : List UInt8) : Except Fault String := (decodeFrom false 0 bs).map String.ofList

/-- The text that bytes are, with replacements for surrogates. -/
def decodeTolerant (bs : List UInt8) : Except Fault String :=
  (decodeFrom true 0 bs).map String.ofList

/-- A text as bytes. -/
def encode (s : String) : List UInt8 := s.toUTF8.toList

/-- The wording of a reason. -/
def Reason.text : Reason → String
  | invalidStart => "invalid start byte"
  | invalidContinuation => "invalid continuation byte"
  | endOfData => "unexpected end of data"

/-- A byte as two hexadecimal digits. -/
def byteText (b : UInt8) : String :=
  String.ofList (Nat.toDigits 16 (b.toNat / 16) ++ Nat.toDigits 16 (b.toNat % 16))

/-- The wording of a fault. -/
def Fault.message (f : Fault) : String :=
  let place :=
    if f.length = 1 then "byte 0x" ++ byteText f.byte ++ " in position " ++ toString f.start
    else "bytes in position " ++ toString f.start ++ "-" ++ toString (f.start + f.length - 1)
  "'utf-8' codec can't decode " ++ place ++ ": " ++ f.reason.text

end ClassDiagram.Utf8
