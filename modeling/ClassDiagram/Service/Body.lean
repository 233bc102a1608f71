import ClassDiagram.Json.Lenient
import ClassDiagram.Text.Blank
import ClassDiagram.Text.Utf8
import ClassDiagram.Text.WideUnits

/-!
# Bodies of requests

What a body says depends on its media type: JSON is read as such, in the encoding that its first
bytes show, and any other body is a text.

* `MediaType.isJson` decides about a media type;
* `Body.text?` reads bytes as a JSON text, in any encoding;
* `Body.content` is what a body says.
-/

namespace ClassDiagram

namespace MediaType

/-- The characters without white space at their ends. -/
def trim (cs : List Char) : List Char :=
  ((cs.dropWhile Text.isBlank).reverse.dropWhile Text.isBlank).reverse

/-- A media type, by the value of its header: type and subtype, in lower case and without
parameters. -/
def ofHeader? (header : String) : Option (String × String) :=
  let name := (trim (header.toList.takeWhile (· ≠ ';'))).map Char.toLower
  let main := name.takeWhile (· ≠ '/')
  match name.drop main.length with
  | _ :: sub => if '/' ∈ sub then none else some (String.ofList main, String.ofList sub)
  | [] => none

/-- A body with this header is JSON: an application type, named for JSON or built on it. -/
def isJson (header : Option String) : Bool :=
  match header.bind ofHeader? with
  | some (main, sub) =>
    main = "application" && (sub = "json" || "+json".toList.isSuffixOf sub.toList)
  | none => false

end MediaType

namespace Body

open WideUnits

/-- The encodings of a JSON text. -/
inductive Encoding where
  | utf8
  | utf16 (order : ByteOrder)
  | utf32 (order : ByteOrder)
deriving DecidableEq, Repr

/-- The encoding that the first bytes of a text show, and how many of them are its mark: a mark, or
else the places of the zero bytes, since a JSON text starts with ASCII characters. -/
def encodingOf : List UInt8 → Encoding × Nat
  | 0x00 :: 0x00 :: 0xFE :: 0xFF :: _ => (.utf32 .big, 4)
  | 0xFF :: 0xFE :: 0x00 :: 0x00 :: _ => (.utf32 .little, 4)
  | 0xFE :: 0xFF :: _ => (.utf16 .big, 2)
  | 0xFF :: 0xFE :: _ => (.utf16 .little, 2)
  | 0xEF :: 0xBB :: 0xBF :: _ => (.utf8, 3)
  | a :: b :: c :: d :: _ =>
    if a = 0 then (if b = 0 then .utf32 .big else .utf16 .big, 0)
    else if b = 0 then (if c = 0 && d = 0 then .utf32 .little else .utf16 .little, 0)
    else (.utf8, 0)
  | [a, b] => (if a = 0 then .utf16 .big else if b = 0 then .utf16 .little else .utf8, 0)
  | _ => (.utf8, 0)

/-- The text of bytes, in the encoding that they show. -/
def text? (bs : List UInt8) : Option String :=
  let (encoding, mark) := encodingOf bs
  let bs := bs.drop mark
  match encoding with
  | .utf8 => (Utf8.decodeTolerant bs).toOption
  | .utf16 order => utf16 order bs
  | .utf32 order => utf32 order bs

/-- What a body says. -/
inductive Content where
  /-- Nothing: it is empty. -/
  | empty
  /-- A JSON value, or a text in its place. -/
  | value (v : Document)
  /-- It is to be JSON and is none. -/
  | malformed (cause : SyntaxFault Json.Lenient.Cause) (offset : Nat)
  /-- It is to be JSON and cannot be read at all. -/
  | unreadable
  /-- It is to be a text and is none. -/
  | undecodable (fault : Utf8.Fault)

/-- What a body says that comes with the given media type. -/
def content (mediaType : Option String) (bs : List UInt8) : Content :=
  if bs = [] then .empty
  else if MediaType.isJson mediaType then
    match text? bs with
    | none => .unreadable
    | some text =>
      match Json.Lenient.read text with
      | .ok v => .value v
      | .error fault => .malformed fault.cause fault.offset
  else
    match Utf8.decode bs with
    | .ok text => .value (.str text)
    | .error fault => .undecodable fault

end Body

end ClassDiagram
