import ClassDiagram.Proofs.Check.Accepted
import ClassDiagram.Proofs.Check.Reading
import ClassDiagram.Proofs.Check.Schema
import Mathlib.Data.List.Forall2

/-!
# What the entry of a type says

A type that is accepted says what its entry in the snapshot says, field by field. The readings of an
entry know nothing of checks: a field is what stands under the first of its keys.

* `Document.under?`, `Document.textUnder` and `Document.itemsUnder` read a field;
* `Entry.name`, `Entry.interfaces` and their like read the fields of an entry that decide about
  relationships;
* `Entry.Describes` compares an entry with a type, and `TypeSymbol.describes_of_ofJson` says that an
  entry describes the type that is read from it.
-/

namespace ClassDiagram

/-! ### Reading fields -/

namespace Document

/-- The value under the first of some keys that an object has. -/
def under? (keys : List String) : Document → Option Document
  | .object fields => keys.findSome? (Json.get? fields)
  | _ => none

/-- The text under some keys, empty if there is none. -/
def textUnder (keys : List String) (d : Document) : String :=
  match d.under? keys with
  | some (.str s) => s
  | _ => ""

/-- The items of the array under some keys, none if there is no array. -/
def itemsUnder (keys : List String) (d : Document) : List Document :=
  match d.under? keys with
  | some (.array vs) => vs
  | _ => []

variable {keys : List String} {d w : Document}

theorem sizeOf_lt_of_under? (h : d.under? keys = some w) : sizeOf w < sizeOf d := by
  cases d with
  | object fields =>
    obtain ⟨k, -, hk⟩ := List.exists_of_findSome?_eq_some h
    obtain ⟨field, hfield, rfl⟩ := Option.map_eq_some_iff.1 hk
    exact Json.sizeOf_lt_of_mem_object (List.mem_of_find?_eq_some hfield)
  | _ => cases h

theorem sizeOf_lt_of_mem_itemsUnder (h : w ∈ d.itemsUnder keys) : sizeOf w < sizeOf d := by
  rw [itemsUnder] at h
  split at h
  next hv => exact Nat.lt_trans (Json.sizeOf_lt_of_mem_array h) (sizeOf_lt_of_under? hv)
  next => cases h

end Document

/-- What stands for a type in a snapshot. -/
abbrev Entry := Document

namespace Entry

variable (w : Entry)

/-- The name of the type. -/
def name : String := w.textUnder Keys.name

/-- The namespace of the type. -/
def namespaceName : String := w.textUnder Keys.namespaceName

/-- What tells the type from the other ones of one array: its namespace and its name. -/
def identity : String × String := (w.namespaceName, w.name)

/-- Where the type comes from, as it is written. -/
def origin : String := w.textUnder Keys.origin

/-- The tag of the type, as it is written; a type without a tag has an empty one. -/
def tag : String := w.textUnder Keys.special

/-- The entries of the types that the type implements, repeated ones included. -/
def interfaces : List Entry := w.itemsUnder Keys.interfaces

/-- The entry of the type that the type extends; null is none. -/
def base? : Option Entry := (w.under? Keys.base).filter fun b => !b matches .null

theorem base?_eq_some_iff {w b : Entry} :
    w.base? = some b ↔ w.under? Keys.base = some b ∧ b ≠ .null := by
  rw [base?, Option.filter_eq_some_iff]
  cases b <;> simp

/-- The entry says of a type what the type says of itself, as far as relationships go. The types
that it implements and extends were read from what the entry lists. -/
structure Describes (t : TypeSymbol) : Prop where
  name_eq : t.name = w.name
  namespaceName_eq : t.namespaceName = w.namespaceName
  isFramework_iff : t.origin = .framework ↔ w.origin = Enumeration.name Origin.framework
  tag_eq : w.tag = t.special.elim "" Enumeration.name
  interfaces_eq : ∃ is, t.interfaces = TypeSymbol.firstOccurrences is ∧
    List.Forall₂ (fun v i => TypeSymbol.ofJson v = .ok i) w.interfaces is
  base_eq : Option.Rel (fun v b => TypeSymbol.ofJson v = .ok b) w.base? t.base

end Entry

/-! ### Checks of fields -/

namespace Check

open Checked

variable {α : Type} {fields : List (String × Document)} {keys : List String} {a : α} {v : Document}

theorem required_eq_ok_iff (check : Document → Result Empty α) :
    required fields keys (fun f => check f.1.2) = .ok a ↔
      ∃ v, Document.under? keys (.object fields) = some v ∧ check v = .ok a := by
  rw [required_eq_ok_iff_yields, Yields, Document.under?, Json.first?]
  cases keys.findSome? (Json.get? fields) <;> simp

theorem optional_eq_ok_iff {absent : α} (check : Document → Result Empty α) :
    optional fields keys absent (fun f => check f.1.2) = .ok a ↔
      (Document.under? keys (.object fields) = none ∧ a = absent) ∨
        ∃ v, Document.under? keys (.object fields) = some v ∧ check v = .ok a := by
  rw [optional_eq_ok_iff_yields, Yields, Document.under?, Json.first?]
  cases keys.findSome? (Json.get? fields) <;> simp [eq_comm]

theorem textUnder_of_required {s : String}
    (h : required fields keys (fun f => text f.1.2) = .ok s) :
    Document.textUnder keys (.object fields) = s := by
  obtain ⟨v, hv, hs⟩ := (required_eq_ok_iff text).1 h
  rw [Document.textUnder, hv, text_eq_ok_iff.1 hs]

theorem textUnder_of_optional {s : String}
    (h : optional fields keys "" (fun f => text f.1.2) = .ok s) :
    Document.textUnder keys (.object fields) = s := by
  rcases (optional_eq_ok_iff text).1 h with ⟨hv, rfl⟩ | ⟨v, hv, hs⟩
  · rw [Document.textUnder, hv]
  · rw [Document.textUnder, hv, text_eq_ok_iff.1 hs]

theorem textUnder_of_choice [Enumeration α] {absent a : α}
    (h : optional fields keys absent (fun f => choice α f.1.2) = .ok a) :
    (a = absent ∧ Document.textUnder keys (.object fields) = "") ∨
      Document.textUnder keys (.object fields) = Enumeration.name a := by
  rcases (optional_eq_ok_iff (choice α)).1 h with ⟨hv, rfl⟩ | ⟨v, hv, ha⟩
  · exact .inl ⟨rfl, by rw [Document.textUnder, hv]⟩
  · exact .inr (by rw [Document.textUnder, hv, eq_str_of_choice_eq_ok ha])

theorem textUnder_of_nullable_choice [Enumeration α] {o : Option α}
    (h : optional fields keys none (fun f => nullable f.1.2 (choice α f.1.2)) = .ok o) :
    Document.textUnder keys (.object fields) = o.elim "" Enumeration.name := by
  rcases (optional_eq_ok_iff fun v => nullable v (choice α v)).1 h with ⟨hv, rfl⟩ | ⟨v, hv, ho⟩
  · rw [Document.textUnder, hv, Option.elim_none]
  · rw [Document.textUnder, hv]
    rcases nullable_eq_ok_iff.1 ho with ⟨rfl, rfl⟩ | ⟨-, a, ha, rfl⟩
    · rfl
    · rw [eq_str_of_choice_eq_ok ha, Option.elim_some]

theorem itemsUnder_of_optional {check : Document → Result Empty α} {as : List α}
    (h : optional fields keys [] (fun f => sequence check f.1.2) = .ok as) :
    List.Forall₂ (fun v a => check v = .ok a) (Document.itemsUnder keys (.object fields)) as := by
  rcases (optional_eq_ok_iff (sequence check)).1 h with ⟨hv, rfl⟩ | ⟨v, hv, has⟩
  · simp [Document.itemsUnder, hv]
  · obtain ⟨vs, rfl, hvs⟩ := sequence_eq_ok_iff.1 has
    simpa [Document.itemsUnder, hv] using hvs

theorem base_of_optional {check : Document → Result Empty α} {o : Option α}
    (h : optional fields Keys.base none (fun f => nullable f.1.2 (check f.1.2)) = .ok o) :
    Option.Rel (fun v a => check v = .ok a) (Entry.base? (.object fields)) o := by
  rcases (optional_eq_ok_iff fun v => nullable v (check v)).1 h with ⟨hv, rfl⟩ | ⟨v, hv, ho⟩
  · rw [Entry.base?, hv]
    exact .none
  · rcases nullable_eq_ok_iff.1 ho with ⟨rfl, rfl⟩ | ⟨hne, a, ha, rfl⟩
    · rw [Entry.base?, hv]
      exact .none
    · rw [Entry.base?_eq_some_iff.2 ⟨hv, hne⟩]
      exact .some ha

end Check

/-! ### Types -/

open Checked Check

theorem TypeSymbol.describes_of_ofJson {w : Entry} {t : TypeSymbol} (h : ofJson w = .ok t) :
    w.Describes t := by
  cases w with
  | object fields =>
    obtain ⟨interfaces, h⟩ := ofJson_object_eq_ok_iff.1 h
    exact {
      name_eq := (textUnder_of_required (required_eq_ok_iff_yields.2 h.name)).symm
      namespaceName_eq := (textUnder_of_optional (optional_eq_ok_iff_yields.2 h.namespaceName)).symm
      isFramework_iff := by
        rw [Entry.origin]
        rcases textUnder_of_choice (optional_eq_ok_iff_yields.2 h.origin) with ⟨hdefault, ho⟩ | ho
        · rw [ho, hdefault]
          exact ⟨nofun, nofun⟩
        · rw [ho]
          exact ⟨congrArg _, LawfulEnumeration.eq_of_name_eq _ _⟩
      tag_eq := textUnder_of_nullable_choice (optional_eq_ok_iff_yields.2 h.special)
      interfaces_eq :=
        ⟨interfaces, h.interfaces_eq, itemsUnder_of_optional (optional_eq_ok_iff_yields.2 h.listed)⟩
      base_eq := base_of_optional (optional_eq_ok_iff_yields.2 h.base) }
  | ready r => exact r.elim
  | _ =>
    rw [ofJson] at h
    cases h
    all_goals simp

end ClassDiagram
