import ClassDiagram.Json.Basic

/-!
# Numerals

How the digits of a JSON number become a value: without a fraction and an exponent it is a whole
number of any size, otherwise the nearest number of double precision.
-/

namespace ClassDiagram

/-- The parts of a number as written. -/
structure Numeral where
  /-- A minus sign stands before it. -/
  negative : Bool
  /-- The digits before the point. -/
  whole : List Char
  /-- The digits after the point, if there is one. -/
  fraction : Option (List Char)
  /-- The exponent, if there is one: a minus sign stands before it, and its digits. -/
  exponent : Option (Bool × List Char)
deriving Repr

namespace Numeral

/-- A decimal digit. -/
def isDigit (c : Char) : Bool := '0' ≤ c && c ≤ '9'

/-- The number that decimal digits spell. -/
def digitsValue (ds : List Char) : Nat := ds.foldl (fun n d => 10 * n + (d.toNat - '0'.toNat)) 0

/-- An integer of the given size and sign. -/
def signed (negative : Bool) (n : Nat) : Int := if negative then -(n : Int) else n

/-- The value of a number. -/
def value {ρ : Type} (n : Numeral) : Json ρ :=
  if n.fraction.isNone && n.exponent.isNone then .int (signed n.negative (digitsValue n.whole))
  else
    let places := n.fraction.getD []
    let shift := n.exponent.elim 0 fun (negative, ds) => signed negative (digitsValue ds)
    .float (Binary64.ofDecimal n.negative (digitsValue (n.whole ++ places)) (shift - places.length))

end Numeral

/-- A whole number may have at most so many digits. -/
def maxIntegerDigits : Nat := 4300

end ClassDiagram
