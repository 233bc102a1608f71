import ClassDiagram.Check.Problem

/-!
# Values that count as equal

When a session compares two values, it goes by what they say. Numbers are equal when their values
are, whichever way they are written, and truth values count as numbers. The fields of an object may
stand in any order.

* `Json.same` compares documents;
* `Built.same` compares built values, which are of the same kind when they are equal.
-/

namespace ClassDiagram

namespace Json

/-- The whole number that a value counts as, if it counts as one. -/
def whole? : Document → Option Int
  | bool b => some (if b then 1 else 0)
  | int n => some n
  | float x => x.toInt?
  | _ => none

/-- The values count as the same number. -/
def sameNumber : Document → Document → Bool
  | float x, float y => x == y || (x.toInt?.isSome && x.toInt? == y.toInt?)
  | v, w => v.whole?.isSome && v.whole? == w.whole?

mutual

/-- The documents are equal. -/
def same : Document → Document → Bool
  | null, null => true
  | str s, str t => s == t
  | array vs, array ws => sameItems vs ws
  | object fs, object gs => fs.length == gs.length && sameFields fs gs
  | v, w => sameNumber v w

/-- The documents are equal one by one. -/
def sameItems : List Document → List Document → Bool
  | [], [] => true
  | v :: vs, w :: ws => same v w && sameItems vs ws
  | _, _ => false

/-- Each of the fields is among the others with an equal value. -/
def sameFields : List (String × Document) → List (String × Document) → Bool
  | [], _ => true
  | (k, v) :: fs, gs => ((get? gs k).elim false fun w => same v w) && sameFields fs gs

end

end Json

/-- The drafts are equal part by part. -/
def DraftConfig.same (d e : DraftConfig) : Bool :=
  d.frameworkNamespaces.same e.frameworkNamespaces && d.specialBases.same e.specialBases
    && d.specialInterfaces.same e.specialInterfaces

/-- The built values are equal. -/
def Built.same : Built → Built → Bool
  | parameter p, parameter q => p == q
  | member m, member n => m == n
  | type t, type u => t == u
  | model m, model n => m == n
  | rule r, rule s => r == s
  | config d, config e => d.same e
  | _, _ => false

end ClassDiagram
