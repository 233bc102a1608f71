import ClassDiagram.Text.Blank

/-!
# Whole numbers in words

A whole number as a person writes it on a command line: blank space around it, a sign, decimal
digits of any script, and single low lines between digits.

* `Text.integer?` reads such a number.
-/

namespace ClassDiagram.Text

/-- The white space that may surround a number: the separators among the control characters may
not. -/
def surroundsNumber (c : Char) : Bool := isBlank c && !(0x1C ≤ c.toNat && c.toNat ≤ 0x1F)

/-- The characters without white space at their ends. -/
def strip (cs : List Char) : List Char :=
  ((cs.dropWhile surroundsNumber).reverse.dropWhile surroundsNumber).reverse

/-- The most digits of a number. -/
def maxDigits : Nat := 4300

/-- The values of digits, with single low lines between them. -/
def digitValues? : List Char → Option (List Nat)
  | [] => none
  | [c] => (digitValue? c).map ([·])
  | c :: '_' :: cs => do return (← digitValue? c) :: (← digitValues? cs)
  | c :: cs => do return (← digitValue? c) :: (← digitValues? cs)

/-- The number that digits spell. -/
def natural? (cs : List Char) : Option Nat := do
  let ds ← digitValues? cs
  if maxDigits < ds.length then none else some (ds.foldl (fun n d => 10 * n + d) 0)

/-- The whole number that a text spells. -/
def integer? (s : String) : Option Int :=
  match strip s.toList with
  | '-' :: cs => (natural? cs).map fun n => -(n : Int)
  | '+' :: cs => (natural? cs).map Int.ofNat
  | cs => (natural? cs).map Int.ofNat

end ClassDiagram.Text
