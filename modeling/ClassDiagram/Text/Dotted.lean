/-!
# Dotted names

A dotted name is a sequence of parts with a point between neighbours. Splitting loses nothing:
empty parts, also the first and the last, are kept.

* `Text.dottedParts` splits a name at every point;
* `Text.joinDots` puts parts together again.
-/

namespace ClassDiagram.Text

/-- The parts of a name between its points; there is always at least one. -/
def dottedPieces : List Char → List (List Char)
  | [] => [[]]
  | c :: cs =>
    if c = '.' then [] :: dottedPieces cs
    else match dottedPieces cs with
      | [] => [[c]]
      | p :: ps => (c :: p) :: ps

/-- The parts of a name, as strings. -/
def dottedParts (s : String) : List String :=
  (dottedPieces s.toList).map String.ofList

/-- Parts with one point between neighbours. -/
def joinDots (parts : List String) : String := ".".intercalate parts

theorem dottedPieces_ne_nil (cs : List Char) : dottedPieces cs ≠ [] := by
  cases cs with
  | nil => simp [dottedPieces]
  | cons c cs =>
    simp only [dottedPieces]
    split
    · simp
    · split <;> simp

end ClassDiagram.Text
