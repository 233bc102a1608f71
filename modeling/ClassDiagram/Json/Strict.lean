import ClassDiagram.Json.Grammar

/-!
# Reading JSON files

The reader for snapshots and filter configurations. It is strict about surrogates, bounds the
nesting of containers, and reports a fault by line and column.

* `Json.Strict.read` reads a text;
* `Json.Strict.Cause` are the faults of single tokens;
* `Json.Strict.message` words a fault, with its place.
-/

namespace ClassDiagram.Json.Strict

/-! ### Tokens -/

/-- What is wrong with characters that are no token. -/
inductive Cause where
  /-- No value starts so. -/
  | noValue
  /-- A constant is misspelt. -/
  | badConstant
  /-- The text ends within a constant or a number. -/
  | valueRunsOut
  /-- A digit is missing, or one too many. -/
  | badNumber
  /-- A whole number has too many digits. -/
  | hugeNumber
  /-- A string holds a control character. -/
  | controlCharacter
  /-- The text ends within a string. -/
  | stringRunsOut
  /-- An escape sequence is unknown. -/
  | badEscape
  /-- A surrogate is in the wrong place. -/
  | loneSurrogate
  /-- A surrogate is not followed by an escape sequence. -/
  | brokenPair
deriving DecidableEq, Repr

/-- The unit that four hexadecimal digits spell, where `past` characters of the escape sequence
stand before them. -/
def hexUnit (past : Nat) (cs : List Char) : Except (EscapeFault Cause) Nat :=
  if (String.ofList cs).utf8ByteSize < 4 then .error .runsOut
  else match hexFour cs with
    | .ok n => .ok n
    | .error k => .error (.bad .badEscape (past + k))

/-- The character of an escape sequence behind its `\u`. A high surrogate has to be followed by the
escape sequence of a low one. -/
def hexEscape (cs : List Char) : Except (EscapeFault Cause) (Char × Nat) := do
  let n ← hexUnit 2 cs
  if Text.isLowSurrogate n then .error (.bad .loneSurrogate 5)
  else if Text.isHighSurrogate n then
    match cs.drop 4 with
    | [] => .error .runsOut
    | c :: cs =>
      if c ≠ '\\' then .error (.bad .brokenPair 6)
      else match cs with
        | [] => .error .runsOut
        | c :: cs =>
          if c ≠ 'u' then .error (.bad .brokenPair 7)
          else do
            let low ← hexUnit 8 cs
            if Text.isLowSurrogate low then .ok (Text.surrogatePair n low, 11)
            else .error (.bad .loneSurrogate 11)
  else .ok (Char.ofNat n, 5)

/-- The character of an escape sequence behind its backslash. -/
def escape : List Char → Except (EscapeFault Cause) (Char × Nat)
  | [] => .error .runsOut
  | 'u' :: cs => hexEscape cs
  | c :: _ => match simpleEscape? c with
    | some d => .ok (d, 1)
    | none => .error (.bad .badEscape 1)

/-- How strings of a file are read. -/
def stringRules : StringRules Cause where
  unterminated := .stringRunsOut
  unterminatedAtQuote := false
  control := .controlCharacter
  escape := escape

/-- The constant `word`, whose first character is past; `past` characters stand before the rest. -/
def constant (past : Nat) (v : Document) : List Char → List Char → Token Cause × Nat
  | [], _ => (.literal v, past - 1)
  | _ :: _, [] => (.broken .valueRunsOut past false, 0)
  | w :: word, c :: cs =>
    if c = w then constant (past + 1) v word cs else (.broken .badConstant past false, 0)

/-- Digits of which there has to be one: the digits, or where one is missing. -/
def someDigits (past : Nat) (cs : List Char) : Except (Cause × Nat) (List Char) :=
  match cs with
  | [] => .error (.valueRunsOut, past)
  | c :: _ =>
    if Numeral.isDigit c then .ok (cs.takeWhile Numeral.isDigit) else .error (.badNumber, past)

/-- The exponent of a number, if there is one, and how many characters it takes. -/
def exponent (past : Nat) : List Char → Except (Cause × Nat) (Option (Bool × List Char) × Nat)
  | c :: cs =>
    if c = 'e' || c = 'E' then
      match cs with
      | '+' :: cs => (someDigits (past + 2) cs).map fun ds => (some (false, ds), 2 + ds.length)
      | '-' :: cs => (someDigits (past + 2) cs).map fun ds => (some (true, ds), 2 + ds.length)
      | cs => (someDigits (past + 1) cs).map fun ds => (some (false, ds), 1 + ds.length)
    else .ok (none, 0)
  | [] => .ok (none, 0)

/-- The fraction of a number, if there is one, and how many characters it takes. -/
def fraction (past : Nat) : List Char → Except (Cause × Nat) (Option (List Char) × Nat)
  | '.' :: cs => (someDigits (past + 1) cs).map fun ds => (some ds, 1 + ds.length)
  | _ => .ok (none, 0)

/-- The number whose digits start the text, behind `past` characters of it, and its length. -/
def number (negative : Bool) (past : Nat) (cs : List Char) :
    Except (Cause × Nat) (Document × Nat) := do
  let whole ← someDigits past cs
  if whole.head? = some '0' ∧ 1 < whole.length then .error (.badNumber, past + 1)
  else if maxIntegerDigits < whole.length then .error (.hugeNumber, past + maxIntegerDigits + 1)
  else
    let p := past + whole.length
    let (fraction, n) ← fraction p (cs.drop whole.length)
    let (exponent, k) ← exponent (p + n) (cs.drop (whole.length + n))
    .ok ((Numeral.mk negative whole fraction exponent).value, p + n + k)

/-- The token of a number that was scanned, or of its fault. -/
def numberToken : Except (Cause × Nat) (Document × Nat) → Token Cause × Nat
  | .ok (v, length) => (.literal v, length - 1)
  | .error (cause, offset) => (.broken cause offset false, 0)

/-- The token that starts with `c` and goes on in `cs`. -/
def scan (c : Char) (cs : List Char) : Token Cause × Nat :=
  match c with
  | '"' => scanString stringRules cs
  | 't' => constant 1 (.bool true) "rue".toList cs
  | 'f' => constant 1 (.bool false) "alse".toList cs
  | 'n' => constant 1 .null "ull".toList cs
  | 'N' => constant 1 (.float .nan) "aN".toList cs
  | 'I' => constant 1 (.float (.infinite false)) "nfinity".toList cs
  | '-' =>
    match cs with
    | 'I' :: cs => constant 2 (.float (.infinite true)) "nfinity".toList cs
    | _ => numberToken (number true 1 cs)
  | _ =>
    if Numeral.isDigit c then numberToken (number false 0 (c :: cs))
    else (.broken .noValue 0 false, 0)

/-! ### Texts -/

/-- A container that is not empty lies inside fewer containers than this. -/
def nestingLimit : Nat := 200

/-- The value that a text spells. -/
def readChars (cs : List Char) : Except (Fault Cause) Document :=
  ofLexemes (some nestingLimit) cs.length (lexemes scan 0 cs)

/-- The value that a text spells. -/
def read (text : String) : Except (Fault Cause) Document := readChars text.toList

/-! ### Reports -/

/-- The wording of a fault of one token. -/
def Cause.text : Cause → String
  | noValue => "expected value"
  | badConstant => "expected ident"
  | valueRunsOut => "EOF while parsing a value"
  | badNumber => "invalid number"
  | hugeNumber => "number out of range"
  | controlCharacter => "control character (\\u0000-\\u001F) found while parsing a string"
  | stringRunsOut => "EOF while parsing a string"
  | badEscape => "invalid escape"
  | loneSurrogate => "lone leading surrogate in hex escape"
  | brokenPair => "unexpected end of hex escape"

/-- The wording where another token stands, or none. -/
def unexpectedText {ε : Type} : Expectation → Option (Token ε) → String
  | .value, none => "EOF while parsing a value"
  | .value, some _ => "expected value"
  | .firstItem, none => "EOF while parsing a list"
  | .firstItem, some _ => "expected value"
  | .item, none => "EOF while parsing a value"
  | .item, some .closeArray => "trailing comma"
  | .item, some _ => "expected value"
  | .itemEnd, none => "EOF while parsing a list"
  | .itemEnd, some _ => "expected `,` or `]`"
  | .firstKey, none => "EOF while parsing an object"
  | .firstKey, some _ => "key must be a string"
  | .key, none => "EOF while parsing a value"
  | .key, some .closeObject => "trailing comma"
  | .key, some _ => "key must be a string"
  | .colon, none => "EOF while parsing an object"
  | .colon, some _ => "expected `:`"
  | .fieldEnd, none => "EOF while parsing an object"
  | .fieldEnd, some _ => "expected `,` or `\x7d`"
  | .nothing, _ => "trailing characters"

/-- The wording of a fault. -/
def causeText : SyntaxFault Cause → String
  | .unexpected expected found => unexpectedText expected found
  | .broken cause => cause.text
  | .tooDeep => "recursion limit exceeded"

/-- A place in a text, as it is reported. -/
structure Position where
  /-- The line, counted from 1. -/
  line : Nat
  /-- The byte of the line, counted from 1. -/
  column : Nat
deriving DecidableEq, Repr

/-- The bytes of a text up to and with the byte number `i`, as far as there are any; the faults of
a text that ends too early lie on its last byte. -/
def bytesThrough (text : String) (i : Nat) : List UInt8 := text.toUTF8.toList.take (i + 1)

/-- The place of the byte number `i` of a text: the lines are those that end before it, or at it,
and the column counts from the last line end. -/
def position (text : String) (i : Nat) : Position :=
  let bytes := bytesThrough text i
  ⟨1 + bytes.count 10, (bytes.reverse.takeWhile (· ≠ 10)).length⟩

/-- The wording of a fault of a text, with its place. -/
def message (text : String) (f : Fault Cause) : String :=
  let bytesBefore := (String.ofList (text.toList.take f.offset)).utf8ByteSize
  let place := position text bytesBefore
  causeText f.cause ++ " at line " ++ toString place.line ++ " column " ++ toString place.column

end ClassDiagram.Json.Strict
