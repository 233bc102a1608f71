import ClassDiagram.Json.Basic
import ClassDiagram.Decimal.Shortest

/-!
# Writing JSON

A document as the shortest text of it: no blank space, and an escape only where one is needed.

* `Json.write` and `Document.text` are that text;
* `Json.isFinite` holds where every number has a JSON form.
-/

namespace ClassDiagram

namespace Json

/-- A hexadecimal digit. -/
def hexDigitChar (n : Nat) : Char := if n < 10 then Char.ofNat (48 + n) else Char.ofNat (87 + n)

/-- A character within a string. -/
def writeChar (c : Char) : List Char :=
  if c = '"' then ['\\', '"']
  else if c = '\\' then ['\\', '\\']
  else if c.toNat < 0x20 then
    ['\\', 'u', '0', '0', hexDigitChar (c.toNat / 16), hexDigitChar (c.toNat % 16)]
  else [c]

/-- A string with its quotes. -/
def writeString (s : String) : List Char := '"' :: s.toList.flatMap writeChar ++ ['"']

/-- A whole number. -/
def writeInt (n : Int) : List Char :=
  (if n < 0 then ['-'] else []) ++ Nat.toDigits 10 n.natAbs

/-- The layout of other numbers, with the words for the values that have no digits. -/
def jsonDecimals : DecimalLayout := { plainDecimals with nan := "NaN", infinity := "Infinity" }

mutual

/-- The characters of a document. -/
def write : Document → List Char
  | null => "null".toList
  | bool true => "true".toList
  | bool false => "false".toList
  | int n => writeInt n
  | float x => (jsonDecimals.written x).toList
  | str s => writeString s
  | array items => '[' :: writeItems items ++ [']']
  | object fields => '\x7b' :: writeFields fields ++ ['\x7d']
  | ready r => r.elim

/-- The characters of the items of an array. -/
def writeItems : List Document → List Char
  | [] => []
  | v :: vs => write v ++ writeMoreItems vs

/-- The characters of further items, each behind a comma. -/
def writeMoreItems : List Document → List Char
  | [] => []
  | v :: vs => ',' :: write v ++ writeMoreItems vs

/-- The characters of the fields of an object. -/
def writeFields : List (String × Document) → List Char
  | [] => []
  | (k, v) :: fields => writeString k ++ ':' :: write v ++ writeMoreFields fields

/-- The characters of further fields, each behind a comma. -/
def writeMoreFields : List (String × Document) → List Char
  | [] => []
  | (k, v) :: fields => ',' :: writeString k ++ ':' :: write v ++ writeMoreFields fields

end

mutual

/-- Every number in the value is finite. -/
def isFinite {ρ : Type} : Json ρ → Bool
  | float x => x.isFinite
  | array items => allFinite items
  | object fields => allFieldsFinite fields
  | _ => true

/-- Every number in the values is finite. -/
def allFinite {ρ : Type} : List (Json ρ) → Bool
  | [] => true
  | v :: vs => v.isFinite && allFinite vs

/-- Every number in the fields is finite. -/
def allFieldsFinite {ρ : Type} : List (String × Json ρ) → Bool
  | [] => true
  | (_, v) :: fields => v.isFinite && allFieldsFinite fields

end

end Json

/-- A document as a text. -/
def Document.text (d : Document) : String := String.ofList (Json.write d)

end ClassDiagram
