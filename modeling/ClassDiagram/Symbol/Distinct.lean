import ClassDiagram.Symbol.Basic

/-!
# Lists without repeated interfaces

A type that lists one interface twice implements it once. Two entries are the same interface when
they have the same namespace and name, whatever else is said about them, and the first one counts.

* `TypeSymbol.firstOccurrences` keeps the first of the entries with one identity;
* `TypeSymbol.InterfacesDistinct` says that a type has no repeated interface at any depth.
-/

namespace ClassDiagram

namespace TypeSymbol

/-- The entries whose identity is not in `seen` and was not met earlier in the list. -/
def firstOccurrencesFrom (seen : List (String × String)) : List TypeSymbol → List TypeSymbol
  | [] => []
  | t :: ts =>
    if t.identity ∈ seen then firstOccurrencesFrom seen ts
    else t :: firstOccurrencesFrom (t.identity :: seen) ts

/-- The first entry of each namespace and name, in order. -/
def firstOccurrences (ts : List TypeSymbol) : List TypeSymbol := firstOccurrencesFrom [] ts

/-- No interface is listed twice by the type, by one of its interfaces or by its base, to any
depth. -/
inductive InterfacesDistinct : TypeSymbol → Prop
  | intro {t : TypeSymbol} (distinct : (t.interfaces.map identity).Nodup)
      (interfaces : ∀ i ∈ t.interfaces, InterfacesDistinct i)
      (base : ∀ b ∈ t.base, InterfacesDistinct b) : InterfacesDistinct t

end TypeSymbol

end ClassDiagram
