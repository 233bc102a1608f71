import ClassDiagram.Text.Surrogate

/-!
# UTF-16 and UTF-32

Reading bytes as text where a character takes two or four bytes at least. Surrogates without a
partner are tolerated.

* `WideUnits.utf16` and `WideUnits.utf32` read bytes, in either order.
-/

namespace ClassDiagram.WideUnits

/-- In which order the bytes of a unit stand. -/
inductive ByteOrder where
  /-- The most significant one first. -/
  | big
  /-- The least significant one first. -/
  | little
deriving DecidableEq, Repr

/-- The number that the bytes of a unit spell. -/
def unit (order : ByteOrder) (bs : List UInt8) : Nat :=
  let digits := match order with
    | .big => bs
    | .little => bs.reverse
  digits.foldl (fun n b => 256 * n + b.toNat) 0

/-- The units of two bytes; there are none if a byte is left over. -/
def pairs (order : ByteOrder) : List UInt8 → Option (List Nat)
  | [] => some []
  | a :: b :: bs => (pairs order bs).map (unit order [a, b] :: ·)
  | _ => none

/-- The units of four bytes; there are none if a byte is left over. -/
def quads (order : ByteOrder) : List UInt8 → Option (List Nat)
  | [] => some []
  | a :: b :: c :: d :: bs => (quads order bs).map (unit order [a, b, c, d] :: ·)
  | _ => none

/-- The characters of units of 16 bits. -/
def joinPairs : List Nat → List Char
  | [] => []
  | [n] => [Text.charOfCode n]
  | n :: m :: ns =>
    if Text.isHighSurrogate n && Text.isLowSurrogate m then Text.surrogatePair n m :: joinPairs ns
    else Text.charOfCode n :: joinPairs (m :: ns)

/-- The text of bytes in UTF-16. -/
def utf16 (order : ByteOrder) (bs : List UInt8) : Option String :=
  (pairs order bs).map fun ns => String.ofList (joinPairs ns)

/-- The greatest code of a character. -/
def maxCode : Nat := 0x10FFFF

/-- The text of bytes in UTF-32. -/
def utf32 (order : ByteOrder) (bs : List UInt8) : Option String := do
  let ns ← quads order bs
  if ns.all (· ≤ maxCode) then some (String.ofList (ns.map Text.charOfCode)) else none

end ClassDiagram.WideUnits
