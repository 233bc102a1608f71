/-!
# Enumerations with a name for every value

The fixed vocabularies of a symbol snapshot (kinds, visibilities, origins, tags of built-in types)
are closed lists of values, each with one spelling.

* `Enumeration` lists the values in declaration order and spells each of them;
* `Enumeration.ofName?` reads a spelling back, and accepts the exact spellings only;
* `LawfulEnumeration` says that every value is listed and that no two share a spelling.
-/

namespace ClassDiagram

/-- A closed vocabulary: its values in declaration order, and how each is written. -/
class Enumeration (α : Type) where
  /-- The values, in declaration order. -/
  values : List α
  /-- How a value is written. -/
  name : α → String

namespace Enumeration

/-- The value with the spelling `s`, if there is one. -/
def ofName? (α : Type) [Enumeration α] (s : String) : Option α :=
  (values (α := α)).find? fun a => name a == s

/-- The spellings of all values, in declaration order. -/
def names (α : Type) [Enumeration α] : List String :=
  (values (α := α)).map name

end Enumeration

/-- Every value is listed, and a spelling belongs to one value. -/
class LawfulEnumeration (α : Type) [Enumeration α] : Prop where
  mem_values : ∀ a : α, a ∈ Enumeration.values
  eq_of_name_eq : ∀ a b : α, Enumeration.name a = Enumeration.name b → a = b

namespace Enumeration

theorem ofName?_name {α : Type} [Enumeration α] [LawfulEnumeration α] (a : α) :
    ofName? α (name a) = some a := by
  unfold ofName?
  cases h : List.find? (fun b => name b == name a) (values (α := α)) with
  | none =>
    have := List.find?_eq_none.1 h a (LawfulEnumeration.mem_values a)
    simp at this
  | some b =>
    have hb := List.find?_some h
    rw [LawfulEnumeration.eq_of_name_eq b a (by simpa using hb)]

theorem name_of_ofName? {α : Type} [Enumeration α] {s : String} {a : α}
    (h : ofName? α s = some a) : name a = s := by
  simpa using List.find?_some h

end Enumeration

end ClassDiagram
