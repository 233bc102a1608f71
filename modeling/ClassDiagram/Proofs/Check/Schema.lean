import ClassDiagram.Service.Respond

/-!
# The schema of the records

What a document has to be to be read as a record, without a word about how it is checked.

* `Shape` is what a value is to be, `Record.fields` are the fields of a record in their order of
  declaration;
* `Shape.Leads` follows a path into a document, through values of the right kind and through the
  first key of a field that is there;
* `Shape.Misfit` says that a value is nothing of a shape, `Shape.Offends` that something is wrong at
  some place of a document;
* `Shape.Before` is the order of places in a document of a shape;
* `Json.follow?` is the value at the end of a path, whatever the document is to be.
-/

namespace ClassDiagram

/-! ### Shapes -/

/-- What a value is to be. -/
inductive Shape where
  /-- A text. -/
  | text
  /-- A truth value. -/
  | flag
  /-- One of some spellings. -/
  | choice (names : List String)
  /-- A sequence of parts. -/
  | sequence (item : Shape)
  /-- A list of settings. -/
  | list (item : Shape)
  /-- Null, or something else. -/
  | nullable (s : Shape)
  /-- An object with the fields of a record. -/
  | record (r : Record)

/-- A field of a record. -/
structure Field where
  /-- The keys that it may stand under, the preferred one first. -/
  keys : List String
  /-- It has to be there. -/
  isRequired : Bool
  /-- What its value is to be. -/
  shape : Shape

namespace Field

/-- A field that has to be there. -/
def required (keys : List String) (s : Shape) : Field := ⟨keys, true, s⟩

/-- A field that may be missing. -/
def optional (keys : List String) (s : Shape) : Field := ⟨keys, false, s⟩

/-- The key that names the field when it is missing. -/
def name (f : Field) : String := f.keys.headD ""

/-- The value of the field, with its key: the first of its keys that the object has. -/
def value? (f : Field) (fields : List (String × Document)) : Option (String × Document) :=
  f.keys.findSome? fun k => (Json.get? fields k).map (k, ·)

end Field

/-- One of the spellings of a vocabulary. -/
def Shape.oneOf (α : Type) [Enumeration α] : Shape := .choice (Enumeration.names α)

/-- The fields of a record, in their order of declaration. -/
def Record.fields : Record → List Field
  | parameter => [.required Keys.name .text, .optional Keys.parameterType .text]
  | member =>
    [.required Keys.memberKind (.oneOf MemberKind), .required Keys.name .text,
      .optional Keys.memberType .text, .optional Keys.visibility (.oneOf Visibility),
      .optional Keys.isStatic .flag, .optional Keys.isImplicit .flag,
      .optional Keys.isAccessor .flag, .optional Keys.parameters (.sequence (.record parameter))]
  | type =>
    [.required Keys.name .text, .optional Keys.kind (.oneOf TypeKind),
      .optional Keys.namespaceName .text, .optional Keys.origin (.oneOf Origin),
      .optional Keys.special (.nullable (.oneOf SpecialType)),
      .optional Keys.members (.sequence (.record member)),
      .optional Keys.interfaces (.sequence (.record type)),
      .optional Keys.base (.nullable (.record type))]
  | model => [.optional Keys.types (.sequence (.record type))]
  | rule => [.required Keys.pattern .text]
  | config =>
    [.optional Keys.frameworkNamespaces (.list .text),
      .optional Keys.specialBases (.list (.oneOf SpecialType)),
      .optional Keys.specialInterfaces (.list (.oneOf SpecialType))]
  | request =>
    [.required Keys.model (.record model), .optional Keys.filters (.nullable (.record config))]

/-! ### Places -/

namespace Json

/-- The value that one step leads to. -/
def step? : Document → Step → Option Document
  | .object fields, .key k => Json.get? fields k
  | .array vs, .index i => vs[i]?
  | _, _ => none

/-- The value at the end of a path. -/
def follow? (v : Document) (path : List Step) : Option Document := path.foldlM step? v

end Json

namespace Shape

/-- What the items of a value are to be. -/
def item? : Shape → Option Shape
  | sequence t => some t
  | list t => some t
  | _ => none

/-- In a document of the first shape, the path leads to a value that is to be of the second one. -/
inductive Leads : Shape → Document → List Step → Shape → Document → Prop where
  | here {s v} : Leads s v [] s v
  | nonnull {s v p t w} (hv : v ≠ .null) (h : Leads s v p t w) : Leads (.nullable s) v p t w
  | item {s u vs i v p t w} (hs : s.item? = some u) (hv : vs[i]? = some v) (h : Leads u v p t w) :
      Leads s (.array vs) (.index i :: p) t w
  | field {r fields f k v p t w} (hf : f ∈ Record.fields r) (hv : f.value? fields = some (k, v))
      (h : Leads f.shape v p t w) : Leads (.record r) (.object fields) (.key k :: p) t w

/-- The whole number that a number is, if it fits into 64 bits. -/
def word? : Document → Option Int
  | .int n => if Check.isWord n then some n else none
  | .float x => x.toInt?.filter Check.isFloatWord
  | _ => none

/-- The value is nothing of the shape; the parts of a value do not count. -/
inductive Misfit : Shape → Document → Cause → Prop where
  | text {v} (h : ∀ s, v ≠ .str s) : Misfit .text v .notText
  | flag {v} (hb : ∀ b, v ≠ .bool b) (hs : ∀ s, v ≠ .str s) (hn : word? v = none) :
      Misfit .flag v .notFlag
  | number {v n} (hn : word? v = some n) (h0 : n ≠ 0) (h1 : n ≠ 1) : Misfit .flag v .unclearFlag
  | word {s} (h : String.ofList (s.toList.map Char.toLower) ∉ Check.trueWords ++ Check.falseWords) :
      Misfit .flag (.str s) .unclearFlag
  | choice {names v} (h : ∀ s ∈ names, v ≠ .str s) : Misfit (.choice names) v (.notAmong names)
  | sequence {t v} (h : ∀ vs, v ≠ .array vs) : Misfit (.sequence t) v .notSequence
  | list {t v} (h : ∀ vs, v ≠ .array vs) : Misfit (.list t) v .notList
  | record {r v} (h : ∀ fields, v ≠ .object fields) : Misfit (.record r) v (.notRecord r)

/-- Something is wrong at a place of a document that is to be of a shape: a path leads to a value
that is nothing of its shape, or to an object without a field that has to be there. -/
inductive Offends (s : Shape) (v : Document) : Problem Empty → Prop where
  | misfit {path t w cause} (h : s.Leads v path t w) (hw : t.Misfit w cause) :
      Offends s v ⟨path, cause, w⟩
  | missing {path r fields f} (h : s.Leads v path (.record r) (.object fields))
      (hf : f ∈ Record.fields r) (hr : f.isRequired = true) (hv : f.value? fields = none) :
      Offends s v ⟨path ++ [.key f.name], .missing, .object fields⟩

/-- In a document of the shape, one path leads to an earlier place than another one, and neither
goes through the other: at their first difference, the field is declared earlier or the item has a
smaller number. -/
inductive Before : Shape → List Step → List Step → Prop where
  | nonnull {s p q} (h : Before s p q) : Before (.nullable s) p q
  | index {s i j p q} (h : i < j) : Before s (.index i :: p) (.index j :: q)
  | item {s t i p q} (hs : s.item? = some t) (h : Before t p q) :
      Before s (.index i :: p) (.index i :: q)
  | declared {r f g k l p q} (h : [f, g].Sublist (Record.fields r)) (hk : k ∈ f.keys)
      (hl : l ∈ g.keys) : Before (.record r) (.key k :: p) (.key l :: q)
  | field {r f k p q} (hf : f ∈ Record.fields r) (hk : k ∈ f.keys) (h : Before f.shape p q) :
      Before (.record r) (.key k :: p) (.key k :: q)

end Shape

/-! ### The value of a field -/

namespace Field

variable {f : Field} {fields : List (String × Document)}

theorem mem_keys_of_value? {k : String} {v : Document} (h : f.value? fields = some (k, v)) :
    k ∈ f.keys ∧ Json.get? fields k = some v := by
  obtain ⟨l, hl, h⟩ := List.exists_of_findSome?_eq_some h
  obtain ⟨w, hw, h⟩ := Option.map_eq_some_iff.1 h
  cases h
  exact ⟨hl, hw⟩

theorem map_lookup? (f : Field) (fields : List (String × Document)) :
    (Json.lookup? fields f.keys).map (·.1) = f.value? fields := by
  rw [value?]
  induction f.keys with
  | nil => rfl
  | cons key keys ih =>
    rw [Json.lookup?, List.findSome?_cons, Json.get?]
    split
    next field h =>
      obtain rfl : field.1 = key := by simpa using List.find?_some h
      simp only [h, Option.map_some]
    next h => simpa [h] using ih

end Field

/-- The key that names a field is one of its keys. -/
theorem Record.name_mem_keys (r : Record) : ∀ f ∈ r.fields, f.name ∈ f.keys := by
  cases r <;> decide

/-- No key belongs to two fields of a record. -/
theorem Record.keys_disjoint (r : Record) :
    r.fields.Pairwise fun f g => ∀ k ∈ f.keys, k ∉ g.keys := by
  cases r <;> decide

/-! ### Places that offend -/

namespace Shape

variable {s t : Shape} {v w : Document} {path : List Step} {p : Problem Empty}

theorem Misfit.ne_missing {cause : Cause} (h : s.Misfit v cause) : cause ≠ .missing := by
  cases h <;> simp

theorem Leads.follow? (h : s.Leads v path t w) : v.follow? path = some w := by
  induction h with
  | here => rfl
  | nonnull _ _ ih => exact ih
  | item _ hv _ ih => simpa [Json.follow?, Json.step?, hv] using ih
  | field _ hv _ ih =>
    simpa [Json.follow?, Json.step?, (Field.mem_keys_of_value? hv).2] using ih

/-- A place that offends is where its path leads to, or else a field that is missing there. -/
theorem Offends.follow? (h : s.Offends v p) :
    (p.cause ≠ .missing → v.follow? p.path = some p.input) ∧
    (p.cause = .missing → p.path ≠ [] ∧ (∃ fields, p.input = .object fields) ∧
      v.follow? p.path.dropLast = some p.input) := by
  cases h with
  | misfit h hw => exact ⟨fun _ => h.follow?, fun hc => absurd hc hw.ne_missing⟩
  | missing h =>
    exact ⟨fun hc => absurd rfl hc, fun _ => ⟨by simp, ⟨_, rfl⟩, by simpa using h.follow?⟩⟩

theorem Before.ne {p q : List Step} (h : s.Before p q) : p ≠ q := by
  induction h with
  | nonnull _ ih => exact ih
  | index h => simp [Nat.ne_of_lt h]
  | item _ _ ih => simpa using ih
  | declared h hk hl =>
    intro heq
    have hkl := Step.key.inj (List.cons.inj heq).1
    exact (Record.keys_disjoint _).forall_sublist h _ hk (hkl ▸ hl)
  | field _ _ _ ih => simpa using ih

end Shape

end ClassDiagram
