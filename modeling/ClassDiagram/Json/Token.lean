import ClassDiagram.Json.Numeral
import ClassDiagram.Text.Surrogate

/-!
# JSON tokens

A JSON text is a sequence of tokens with blank space between them. Two readers share this module:
they agree on what a token is and differ in what they report of a bad one, so that the reports are
a parameter `ε`.

* `Token` and `Lexeme` are tokens, and tokens with their places;
* `lexemes` cuts a text into tokens, given how one token is scanned;
* `scanString` scans a string, given the rules for escapes.
-/

namespace ClassDiagram

/-- The least piece of a JSON text that means something. -/
inductive Token (ε : Type) where
  /-- An opening bracket. -/
  | openArray
  /-- A closing bracket. -/
  | closeArray
  /-- An opening brace. -/
  | openObject
  /-- A closing brace. -/
  | closeObject
  /-- A comma. -/
  | comma
  /-- A colon. -/
  | colon
  /-- A string. -/
  | str (s : String)
  /-- A number or a constant. -/
  | literal (v : Document)
  /-- Characters that are no token: what is wrong, how far behind the first character, and whether
  the first character is the quote of a string. -/
  | broken (cause : ε) (offset : Nat) (quoted : Bool)

/-- A token and the number of characters before it. -/
structure Lexeme (ε : Type) where
  /-- The token. -/
  token : Token ε
  /-- How many characters stand before it. -/
  start : Nat

namespace Json

/-- A character that may stand between tokens. -/
def isBlank (c : Char) : Bool := c = ' ' || c = '\t' || c = '\n' || c = '\r'

/-- The mark that a character is by itself. -/
def mark? {ε : Type} : Char → Option (Token ε)
  | '[' => some .openArray
  | ']' => some .closeArray
  | '\x7b' => some .openObject
  | '\x7d' => some .closeObject
  | ',' => some .comma
  | ':' => some .colon
  | _ => none

/-- The tokens of a text of which `start` characters are past. The scanner of tokens gets a first
character with what follows it, and returns a token and how many of the following characters are
part of it. Nothing is read behind characters that are no token. -/
def lexemes {ε : Type} (scan : Char → List Char → Token ε × Nat) (start : Nat) :
    List Char → List (Lexeme ε)
  | [] => []
  | c :: cs =>
    if isBlank c then lexemes scan (start + 1) cs
    else match mark? c with
      | some t => ⟨t, start⟩ :: lexemes scan (start + 1) cs
      | none =>
        match scan c cs with
        | (.broken cause offset quoted, _) => [⟨.broken cause offset quoted, start⟩]
        | (t, n) => ⟨t, start⟩ :: lexemes scan (start + 1 + n) (cs.drop n)
termination_by cs => cs.length

/-! ### Strings -/

/-- What is wrong with an escape sequence. -/
inductive EscapeFault (ε : Type) where
  /-- The text ends within it. -/
  | runsOut
  /-- Something is wrong with it, at the character of that number; the backslash is number 0. -/
  | bad (cause : ε) (offset : Nat)

/-- How strings are read, and what is reported of a bad one. -/
structure StringRules (ε : Type) where
  /-- The report of a string without a closing quote. -/
  unterminated : ε
  /-- Its place is the opening quote, or else the end of the text. -/
  unterminatedAtQuote : Bool
  /-- The report of a control character. -/
  control : ε
  /-- Reads what follows a backslash: a character and how many characters stand for it. -/
  escape : List Char → Except (EscapeFault ε) (Char × Nat)

/-- The character that a single letter behind a backslash stands for. -/
def simpleEscape? : Char → Option Char
  | '"' => some '"'
  | '\\' => some '\\'
  | '/' => some '/'
  | 'b' => some '\x08'
  | 'f' => some '\x0c'
  | 'n' => some '\n'
  | 'r' => some '\r'
  | 't' => some '\t'
  | _ => none

/-- The value of a hexadecimal digit. -/
def hexDigit? (c : Char) : Option Nat :=
  if '0' ≤ c && c ≤ '9' then some (c.toNat - '0'.toNat)
  else if 'a' ≤ c && c ≤ 'f' then some (c.toNat - 'a'.toNat + 10)
  else if 'A' ≤ c && c ≤ 'F' then some (c.toNat - 'A'.toNat + 10)
  else none

/-- The value of four hexadecimal digits, or how many of them are good. -/
def hexFour (cs : List Char) : Except Nat Nat :=
  let ds := (cs.take 4).map hexDigit?
  match ds with
  | [some a, some b, some c, some d] => .ok (((a * 16 + b) * 16 + c) * 16 + d)
  | _ => .error (ds.takeWhile Option.isSome).length

/-- The rest of a string of which `offset` characters, with the opening quote, are past and stand
for the characters `taken`, the last one first. The result is the string and its length. -/
def stringBody {ε : Type} (rules : StringRules ε) (offset : Nat) (taken : List Char) :
    List Char → Except (ε × Nat) (String × Nat)
  | [] => .error (rules.unterminated, if rules.unterminatedAtQuote then 0 else offset)
  | c :: cs =>
    if c = '"' then .ok (String.ofList taken.reverse, offset + 1)
    else if c = '\\' then
      match rules.escape cs with
      | .ok (d, n) => stringBody rules (offset + 1 + n) (d :: taken) (cs.drop n)
      | .error .runsOut =>
        .error (rules.unterminated,
          if rules.unterminatedAtQuote then 0 else offset + 1 + cs.length)
      | .error (.bad cause k) => .error (cause, offset + k)
    else if c.toNat < 0x20 then .error (rules.control, offset)
    else stringBody rules (offset + 1) (c :: taken) cs
termination_by cs => cs.length

/-- The string whose opening quote stands before the given characters. -/
def scanString {ε : Type} (rules : StringRules ε) (cs : List Char) : Token ε × Nat :=
  match stringBody rules 1 [] cs with
  | .ok (s, length) => (.str s, length - 1)
  | .error (cause, offset) => (.broken cause offset true, 0)

end Json

end ClassDiagram
