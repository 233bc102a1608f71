/-!
# Surrogates

Codes of 16 bits that stand for a character only in pairs. One that is no part of a pair is no
character; where such codes are tolerated, a replacement stands for them.
-/

namespace ClassDiagram.Text

/-- The first code of a pair. -/
def isHighSurrogate (n : Nat) : Bool := 0xD800 ≤ n && n ≤ 0xDBFF

/-- The second code of a pair. -/
def isLowSurrogate (n : Nat) : Bool := 0xDC00 ≤ n && n ≤ 0xDFFF

/-- The character that a pair stands for. -/
def surrogatePair (high low : Nat) : Char :=
  Char.ofNat (0x10000 + (high - 0xD800) * 0x400 + (low - 0xDC00))

/-- The character that stands for a code which is none. -/
def replacement : Char := '\ufffd'

/-- The character with a code, or its replacement. -/
def charOfCode (n : Nat) : Char :=
  if isHighSurrogate n || isLowSurrogate n then replacement else Char.ofNat n

end ClassDiagram.Text
