import ClassDiagram.Text.Printable

/-!
# Quoted texts

How a message shows a text: between quotes, with an escape for everything that could be mistaken.

* `Text.quoted` is the text between quotes;
* `Text.clipped` shortens a long text to its two ends.
-/

namespace ClassDiagram.Text

/-- The lower-case hexadecimal digits of a code, filled up with zeros. -/
def hexDigits (width code : Nat) : List Char :=
  let ds := Nat.toDigits 16 code
  List.replicate (width - ds.length) '0' ++ ds

/-- The escape for a character by its code. -/
def codeEscape (c : Char) : List Char :=
  if c.toNat < 0x100 then '\\' :: 'x' :: hexDigits 2 c.toNat
  else if c.toNat < 0x10000 then '\\' :: 'u' :: hexDigits 4 c.toNat
  else '\\' :: 'U' :: hexDigits 8 c.toNat

/-- A character between two of the given quotes. -/
def quotedChar (quote c : Char) : List Char :=
  if c = quote || c = '\\' then ['\\', c]
  else if c = '\n' then ['\\', 'n']
  else if c = '\r' then ['\\', 'r']
  else if c = '\t' then ['\\', 't']
  else if isPrintable c then [c]
  else codeEscape c

/-- The quote for a text: the double one if that alone saves an escape. -/
def quoteFor (cs : List Char) : Char := if '\'' ∈ cs ∧ '"' ∉ cs then '"' else '\''

/-- A text between quotes. -/
def quotedChars (cs : List Char) : List Char :=
  quoteFor cs :: cs.flatMap (quotedChar (quoteFor cs)) ++ [quoteFor cs]

/-- A text between quotes. -/
def quoted (s : String) : String := String.ofList (quotedChars s.toList)

/-! ### Clipping -/

/-- The most bytes that a message shows of a text. -/
def clipLimit : Nat := 50

/-- The longest beginning of a text that has at most `n` bytes. -/
def takeBytes : Nat → List Char → List Char
  | _, [] => []
  | n, c :: cs => if c.utf8Size ≤ n then c :: takeBytes (n - c.utf8Size) cs else []

/-- A text of more than `clipLimit` bytes shown by its first 25 and its last 24; a character that
is cut is left out. -/
def clipped (s : String) : String :=
  if s.utf8ByteSize ≤ clipLimit then s
  else
    let cs := s.toList
    String.ofList (takeBytes 25 cs ++ "...".toList ++ (takeBytes 24 cs.reverse).reverse)

end ClassDiagram.Text
