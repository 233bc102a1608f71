import ClassDiagram.Decimal.Binary64

/-!
# JSON values

Symbols and filter configurations arrive as JSON values. An object keeps its keys in the order in
which they were first met, and whole numbers are kept apart from numbers with a fraction.

A value may also hold, in the place of a JSON value, something that is already built: `Json ρ` has
leaves of type `ρ` for that. A `Document` has none, and everything that is read from a text is a
document.

* `Json` and `Document` are the values;
* `Json.lookup?` finds a field of an object under one of several keys;
* `Json.put` sets a field of an object and keeps its place.
-/

namespace ClassDiagram

/-- A JSON value, with leaves of type `ρ` for parts that are already built. -/
inductive Json (ρ : Type) where
  /-- The null value. -/
  | null
  /-- A truth value. -/
  | bool (b : Bool)
  /-- A number without fraction and exponent, of any size. -/
  | int (n : Int)
  /-- Any other number. -/
  | float (x : Binary64)
  /-- A text. -/
  | str (s : String)
  /-- A sequence of values. -/
  | array (items : List (Json ρ))
  /-- Values under keys. -/
  | object (fields : List (String × Json ρ))
  /-- Something already built. -/
  | ready (r : ρ)
deriving Repr, Inhabited

/-- A JSON value as it can be read from a text: nothing in it is already built. -/
abbrev Document := Json Empty

namespace Json

variable {ρ σ : Type}

/-- The fields of an object after setting `key`: a key that is there keeps its place. -/
def put (key : String) (value : Json ρ) : List (String × Json ρ) → List (String × Json ρ)
  | [] => [(key, value)]
  | (k, v) :: fields => if k = key then (k, value) :: fields else (k, v) :: put key value fields

/-- The value under one key. -/
def get? (fields : List (String × Json ρ)) (key : String) : Option (Json ρ) :=
  (fields.find? (·.1 == key)).map (·.2)

/-- A field of an object: a key, and a value that is part of the object. -/
abbrev FieldOf (fields : List (String × Json ρ)) := { field : String × Json ρ // field ∈ fields }

/-- The field under the first of the `keys` that the object has. -/
def lookup? (fields : List (String × Json ρ)) : List String → Option (FieldOf fields)
  | [] => none
  | key :: keys =>
    match h : fields.find? (·.1 == key) with
    | some field => some ⟨field, List.mem_of_find?_eq_some h⟩
    | none => lookup? fields keys

mutual

/-- The value with each built part replaced. -/
def map (f : ρ → σ) : Json ρ → Json σ
  | null => null
  | bool b => bool b
  | int n => int n
  | float x => float x
  | str s => str s
  | array items => array (mapItems f items)
  | object fields => object (mapFields f fields)
  | ready r => ready (f r)

/-- The values of a sequence with each built part replaced. -/
def mapItems (f : ρ → σ) : List (Json ρ) → List (Json σ)
  | [] => []
  | v :: vs => v.map f :: mapItems f vs

/-- The fields of an object with each built part replaced. -/
def mapFields (f : ρ → σ) : List (String × Json ρ) → List (String × Json σ)
  | [] => []
  | (k, v) :: fields => (k, v.map f) :: mapFields f fields

end

theorem sizeOf_lt_of_mem_array {v : Json ρ} {items : List (Json ρ)} (h : v ∈ items) :
    sizeOf v < sizeOf (array items) := by
  have := List.sizeOf_lt_of_mem h
  simp only [array.sizeOf_spec]
  omega

theorem sizeOf_lt_of_mem_object {field : String × Json ρ} {fields : List (String × Json ρ)}
    (h : field ∈ fields) : sizeOf field.2 < sizeOf (object fields) := by
  have := List.sizeOf_lt_of_mem h
  obtain ⟨k, v⟩ := field
  simp only [object.sizeOf_spec, Prod.mk.sizeOf_spec] at this ⊢
  omega

end Json

/-- A document as a value that may hold built parts. -/
def Document.lift {ρ : Type} (d : Document) : Json ρ := d.map Empty.elim

end ClassDiagram
