import ClassDiagram.Decimal.Binary64

/-!
# The fewest digits that read back

Among the decimals nearest to a value of double precision, one with the fewest digits that still
reads back as that value stands for it in text.

* `Binary64.shortest` are those digits, with the power of ten that they count;
* `DecimalLayout` says how digits are laid out, and `DecimalLayout.written` does it;
* `plainDecimals` is the layout used for all numbers of this library.
-/

namespace ClassDiagram

namespace Binary64

/-- The position of the decimal point of `num / den` before its first digit: the `k` with
`10 ^ (k - 1) ≤ num / den < 10 ^ k`. -/
def magnitude (num den : Nat) : Int :=
  if den ≤ num then decimalLength (num / den)
  else
    let t := decimalLength (den / num)
    if den ≤ num * Nat.pow 10 (t - 1) then 2 - t else 1 - t

/-- The fraction `num / den`, divided by `10 ^ e`. -/
def scaleTen (num den : Nat) (e : Int) : Nat × Nat :=
  if 0 ≤ e then (num, den * Nat.pow 10 e.toNat) else (num * Nat.pow 10 (-e).toNat, den)

/-- The decimal with `n` digits that reads back as `m * 2 ^ e` and lies nearest to it, if there is
one: one of the two neighbours of the value among the decimals of that length. -/
def nearestOfLength (m : Nat) (e : Int) (n : Nat) : Option (Nat × Int) :=
  let (num, den) := scale m 1 (-e)
  let k := magnitude num den - n
  let (u, v) := scaleTen num den k
  let below := u / v
  let readsBack (d : Nat) : Bool := ofDecimal false d k == finite false m e
  let nearer := roundDiv u v
  if readsBack nearer then some (nearer, k)
  else if readsBack below then some (below, k)
  else if readsBack (below + 1) then some (below + 1, k)
  else none

/-- The shortest decimal `d * 10 ^ k` that reads back as the positive value `m * 2 ^ e`. Seventeen
digits always suffice. -/
def shortest (m : Nat) (e : Int) : Nat × Int :=
  ((List.range 17).findSome? fun i => nearestOfLength m e (i + 1)).getD (m, 0)

end Binary64

/-- How the digits of a number are laid out. -/
structure DecimalLayout where
  /-- The least decimal exponent that is written with a point and zeros. -/
  positionalFrom : Int
  /-- The least decimal exponent above it that is written with an exponent again. -/
  positionalBelow : Int
  /-- What follows a whole number. -/
  wholeEnd : String
  /-- The sign between digits and exponent. -/
  exponentMark : String
  /-- How many digits an exponent has at least. -/
  exponentDigits : Nat
  /-- The word for no number. -/
  nan : String
  /-- The word for an infinite value. -/
  infinity : String
deriving DecidableEq, Repr

namespace DecimalLayout

variable (l : DecimalLayout)

/-- A text of zeros. -/
def zeros (n : Nat) : List Char := List.replicate n '0'

/-- An exponent with its mark, its sign and leading zeros. -/
def exponentText (x : Int) : List Char :=
  let ds := Nat.toDigits 10 x.natAbs
  l.exponentMark.toList ++ [if x < 0 then '-' else '+']
    ++ zeros (l.exponentDigits - ds.length) ++ ds

/-- The digits `ds` with the decimal point at position `k`. -/
def digitsText (ds : List Char) (k : Int) : List Char :=
  if l.positionalFrom ≤ k - 1 ∧ k - 1 < l.positionalBelow then
    if k ≤ 0 then "0.".toList ++ zeros (-k).toNat ++ ds
    else if ds.length ≤ k then ds ++ zeros (k.toNat - ds.length) ++ l.wholeEnd.toList
    else ds.take k.toNat ++ '.' :: ds.drop k.toNat
  else match ds with
    | [] => []
    | [d] => d :: l.exponentText (k - 1)
    | d :: ds => d :: '.' :: ds ++ l.exponentText (k - 1)

/-- A value in this layout, with the fewest digits that read back. -/
def written : Binary64 → String
  | .nan => l.nan
  | .infinite negative => (if negative then "-" else "") ++ l.infinity
  | .finite negative m e =>
    let sign := if negative then "-" else ""
    if m = 0 then sign ++ "0" ++ l.wholeEnd
    else
      let (d, k) := Binary64.shortest m e
      let ds := Nat.toDigits 10 d
      let kept := (ds.reverse.dropWhile (· = '0')).reverse
      sign ++ String.ofList (l.digitsText kept (ds.length + k))

end DecimalLayout

/-- Numbers are written with a point and zeros from `0.0001` up to below `1e+16`, with an exponent
of at least two digits elsewhere, and a whole number keeps one decimal. -/
def plainDecimals : DecimalLayout where
  positionalFrom := -4
  positionalBelow := 16
  wholeEnd := ".0"
  exponentMark := "e"
  exponentDigits := 2
  nan := "nan"
  infinity := "inf"

end ClassDiagram
