import ClassDiagram.Json.Grammar

/-!
# Reading JSON request bodies

The reader for the bodies of requests. It takes surrogates as they come, does not bound the
nesting of containers, and reports a fault by the number of characters before it. What looks like
the start of a number but is none ends the number early.

* `Json.Lenient.read` reads a text;
* `Json.Lenient.message?` words a fault; one fault, a whole number of too many digits, has no
  wording of its own.
-/

namespace ClassDiagram.Json.Lenient

/-! ### Tokens -/

/-- What is wrong with characters that are no token. -/
inductive Cause where
  /-- No value starts so. -/
  | noValue
  /-- A whole number has too many digits. -/
  | hugeNumber
  /-- A string has no closing quote. -/
  | unterminated
  /-- A string holds a control character. -/
  | controlCharacter
  /-- An escape sequence is unknown. -/
  | badEscape
  /-- An escape sequence lacks hexadecimal digits. -/
  | badHexEscape
deriving DecidableEq, Repr

/-- The character of an escape sequence behind its `\u`. Another character has to follow the
digits. A surrogate that starts no pair is replaced. -/
def hexEscape (cs : List Char) : Except (EscapeFault Cause) (Char × Nat) :=
  if cs.length ≤ 4 then .error (.bad .badHexEscape 1)
  else match hexFour cs with
    | .error _ => .error (.bad .badHexEscape 1)
    | .ok n =>
      let alone : Except (EscapeFault Cause) (Char × Nat) := .ok (Text.charOfCode n, 5)
      if Text.isHighSurrogate n then
        match cs.drop 4 with
        | '\\' :: 'u' :: rest =>
          if rest.length ≤ 4 then alone
          else match hexFour rest with
            | .error _ => .error (.bad .badHexEscape 7)
            | .ok low =>
              if Text.isLowSurrogate low then .ok (Text.surrogatePair n low, 11) else alone
        | _ => alone
      else alone

/-- The character of an escape sequence behind its backslash. -/
def escape : List Char → Except (EscapeFault Cause) (Char × Nat)
  | [] => .error .runsOut
  | 'u' :: cs => hexEscape cs
  | c :: _ => match simpleEscape? c with
    | some d => .ok (d, 1)
    | none => .error (.bad .badEscape 0)

/-- How strings of a request are read. -/
def stringRules : StringRules Cause where
  unterminated := .unterminated
  unterminatedAtQuote := true
  control := .controlCharacter
  escape := escape

/-- The exponent that the text starts with, if it does, and how many characters it takes. -/
def exponent : List Char → Option (Bool × List Char) × Nat
  | c :: cs =>
    if c = 'e' || c = 'E' then
      let (negative, signs, cs) := match cs with
        | '+' :: cs => (false, 1, cs)
        | '-' :: cs => (true, 1, cs)
        | cs => (false, 0, cs)
      let ds := cs.takeWhile Numeral.isDigit
      if ds.isEmpty then (none, 0) else (some (negative, ds), 1 + signs + ds.length)
    else (none, 0)
  | [] => (none, 0)

/-- The fraction that the text starts with, if it does, and how many characters it takes. -/
def fraction : List Char → Option (List Char) × Nat
  | '.' :: cs =>
    let ds := cs.takeWhile Numeral.isDigit
    if ds.isEmpty then (none, 0) else (some ds, 1 + ds.length)
  | _ => (none, 0)

/-- The digits before the point: a zero alone, or digits that start with another one. -/
def whole : List Char → List Char
  | '0' :: _ => ['0']
  | cs => cs.takeWhile Numeral.isDigit

/-- The number whose digits start the text, behind `past` characters of it. -/
def number (negative : Bool) (past : Nat) (cs : List Char) : Token Cause × Nat :=
  let ds := whole cs
  if ds.isEmpty then (.broken .noValue 0 false, 0)
  else
    let (fraction, n) := fraction (cs.drop ds.length)
    let (exponent, k) := exponent (cs.drop (ds.length + n))
    if fraction.isNone && exponent.isNone && maxIntegerDigits < ds.length then
      (.broken .hugeNumber 0 false, 0)
    else
      (.literal (Numeral.mk negative ds fraction exponent).value, past + ds.length + n + k - 1)

/-- The constant whose first character is past, if the rest of its word follows. -/
def constant (v : Document) (word : List Char) (cs : List Char) : Token Cause × Nat :=
  if word.isPrefixOf cs then (.literal v, word.length) else (.broken .noValue 0 false, 0)

/-- The token that starts with `c` and goes on in `cs`. -/
def scan (c : Char) (cs : List Char) : Token Cause × Nat :=
  match c with
  | '"' => scanString stringRules cs
  | 't' => constant (.bool true) "rue".toList cs
  | 'f' => constant (.bool false) "alse".toList cs
  | 'n' => constant .null "ull".toList cs
  | 'N' => constant (.float .nan) "aN".toList cs
  | 'I' => constant (.float (.infinite false)) "nfinity".toList cs
  | '-' =>
    match cs with
    | 'I' :: _ => constant (.float (.infinite true)) "Infinity".toList cs
    | _ => number true 1 cs
  | _ =>
    if Numeral.isDigit c then number false 0 (c :: cs) else (.broken .noValue 0 false, 0)

/-! ### Texts -/

/-- The value that a text spells. -/
def readChars (cs : List Char) : Except (Fault Cause) Document :=
  ofLexemes none cs.length (lexemes scan 0 cs)

/-- The value that a text spells. -/
def read (text : String) : Except (Fault Cause) Document := readChars text.toList

/-! ### Reports -/

/-- The wording of a fault of one token. -/
def Cause.text? : Cause → Option String
  | noValue => some "Expecting value"
  | hugeNumber => none
  | unterminated => some "Unterminated string starting at"
  | controlCharacter => some "Invalid control character at"
  | badEscape => some "Invalid \\escape"
  | badHexEscape => some "Invalid \\uXXXX escape"

/-- The wording where another token stands, or none. -/
def expectationText : Expectation → String
  | .value => "Expecting value"
  | .firstItem => "Expecting value"
  | .item => "Expecting value"
  | .itemEnd => "Expecting ',' delimiter"
  | .firstKey => "Expecting property name enclosed in double quotes"
  | .key => "Expecting property name enclosed in double quotes"
  | .colon => "Expecting ':' delimiter"
  | .fieldEnd => "Expecting ',' delimiter"
  | .nothing => "Extra data"

/-- The wording of a fault, if it has one. -/
def message? : SyntaxFault Cause → Option String
  | .unexpected expected _ => some (expectationText expected)
  | .broken cause => cause.text?
  | .tooDeep => none

end ClassDiagram.Json.Lenient
