/-!
# Numbers of double precision

A number with a fraction or an exponent is kept in double precision: the nearest value with a
significand below `2 ^ 53`. The representation is exact, so that reading and writing such numbers
are questions about natural numbers.

* `Binary64` is such a value, `Binary64.ofDecimal` the one nearest to a decimal;
* `Binary64.toInt?` is its value when that is a whole number.
-/

namespace ClassDiagram

/-- A value of double precision. A finite one is `significand * 2 ^ exponent`, up to its sign. -/
inductive Binary64 where
  /-- Not a number. -/
  | nan
  /-- Beyond the finite values. -/
  | infinite (negative : Bool)
  /-- A finite value; zero has a sign too. -/
  | finite (negative : Bool) (significand : Nat) (exponent : Int)
deriving DecidableEq, Repr, Inhabited

namespace Binary64

/-- The least exponent of a finite value. -/
def minExponent : Int := -1074

/-- The greatest exponent of a finite value. -/
def maxExponent : Int := 971

/-- The nearest whole number to `num / den`; of two, the even one. -/
def roundDiv (num den : Nat) : Nat :=
  let q := num / den
  let r := num % den
  if 2 * r < den then q else if 2 * r = den then q + q % 2 else q + 1

/-- The fraction `num / den`, divided by `2 ^ e`. -/
def scale (num den : Nat) (e : Int) : Nat × Nat :=
  if 0 ≤ e then (num, den * Nat.pow 2 e.toNat) else (num * Nat.pow 2 (-e).toNat, den)

/-- The finite value `m * 2 ^ e`, where rounding may have brought `m` up to `2 ^ 53`. -/
def pack (negative : Bool) (m : Nat) (e : Int) : Binary64 :=
  let (m, e) := if m = Nat.pow 2 53 then (Nat.pow 2 52, e + 1) else (m, e)
  if maxExponent < e then infinite negative else finite negative m e

/-- The value nearest to `num / den`; of two, the one with the even significand. -/
def ofRatio (negative : Bool) (num den : Nat) : Binary64 :=
  if num = 0 then finite negative 0 minExponent
  else
    let e : Int := (Nat.log2 num : Int) - Nat.log2 den - 52
    let (n, d) := scale num den e
    let e := max minExponent (if n / d < Nat.pow 2 52 then e - 1 else e)
    let (n, d) := scale num den e
    pack negative (roundDiv n d) e

/-- How many decimal digits a number has. -/
def decimalLength (n : Nat) : Nat := (Nat.toDigits 10 n).length

/-- The value nearest to `digits * 10 ^ e`. Far outside the range of the finite values the power
is not computed: the answer is known. -/
def ofDecimal (negative : Bool) (digits : Nat) (e : Int) : Binary64 :=
  if digits = 0 then finite negative 0 minExponent
  else if 310 < decimalLength digits + e then infinite negative
  else if decimalLength digits + e < -330 then finite negative 0 minExponent
  else if 0 ≤ e then ofRatio negative (digits * Nat.pow 10 e.toNat) 1
  else ofRatio negative digits (Nat.pow 10 (-e).toNat)

/-- The whole number that the value is, if it is one. -/
def toInt? : Binary64 → Option Int
  | nan => none
  | infinite _ => none
  | finite negative m e =>
    let (n, d) := scale m 1 (-e)
    if n % d = 0 then some (if negative then -((n / d : Nat) : Int) else (n / d : Nat)) else none

/-- The value is neither infinite nor undefined. -/
def isFinite : Binary64 → Bool
  | finite .. => true
  | _ => false

end Binary64

end ClassDiagram
