import ClassDiagram.Check.Symbol
import ClassDiagram.Proofs.Check.Outcome

/-!
# What symbols are read from

A symbol is read from an object exactly if each of its fields is read from what stands under the
first of the field's keys. So only these values count, and a symbol that is read from one object is
read from any object in which they are as good.

* `Json.first?` is the value under the first of some keys that is there;
* `Check.Yields` says what a field is read as, `Check.Yields.carry` carries it to another object;
* `Parameter.Read`, `Member.Read`, `TypeSymbol.Read` and `Model.Read` put the fields of a symbol
  together, and `ofJson_object_eq_ok_iff` beside each says that it is read so.
-/

namespace ClassDiagram

variable {ρ σ α β : Type}

/-! ### Fields -/

namespace Json

variable {fields before after : List (String × Json ρ)} {keys : List String} {k l : String}
  {v w : Json ρ}

theorem get?_cons : get? ((k, v) :: fields) l = if k = l then some v else get? fields l := by
  by_cases h : k = l <;> simp [get?, h]

theorem get?_put_self (k : String) (w : Json ρ) (fields : List (String × Json ρ)) :
    get? (put k w fields) k = some w := by
  induction fields with
  | nil => rw [put, get?_cons, if_pos rfl]
  | cons field fields ih =>
    obtain ⟨j, v⟩ := field
    by_cases hj : j = k
    · rw [put, if_pos hj, get?_cons, if_pos hj]
    · rw [put, if_neg hj, get?_cons, if_neg hj, ih]

theorem get?_put_of_ne (h : l ≠ k) : get? (put k w fields) l = get? fields l := by
  induction fields with
  | nil => rw [put, get?_cons, if_neg h.symm]
  | cons field fields ih =>
    obtain ⟨j, v⟩ := field
    by_cases hj : j = k
    · have hl : j ≠ l := fun he => h (he.symm.trans hj)
      rw [put, if_pos hj, get?_cons, get?_cons, if_neg hl, if_neg hl]
    · rw [put, if_neg hj, get?_cons, get?_cons, ih]

theorem get?_insert_of_ne (h : l ≠ k) :
    get? (before ++ (k, v) :: after) l = get? (before ++ after) l := by
  have hk : ((k, v).1 == l) = false := by simpa using h.symm
  simp only [get?, List.find?_append, List.find?_cons, hk]

theorem get?_insert_self (h : ∀ field ∈ before, field.1 ≠ k) :
    get? (before ++ (k, v) :: after) k = some v := by
  have hnone : before.find? (·.1 == k) = none := by simpa using h
  simp [get?, List.find?_append, hnone]

theorem get?_eq_none_iff : get? fields k = none ↔ ∀ field ∈ fields, field.1 ≠ k := by
  simp [get?]

/-- The value under the first of the keys that the object has. -/
def first? (fields : List (String × Json ρ)) (keys : List String) : Option (Json ρ) :=
  keys.findSome? (get? fields)

theorem map_lookup?_eq_first? (fields : List (String × Json ρ)) (keys : List String) :
    (lookup? fields keys).map (·.1.2) = first? fields keys := by
  induction keys with
  | nil => rfl
  | cons key keys ih =>
    rw [lookup?, first?, List.findSome?_cons, get?]
    split
    next field h => simp only [h, Option.map_some]
    next h =>
      simp only [h]
      exact ih

/-- Another value under one key is another value under the first of some keys, or makes no
difference. -/
theorem first?_put (hv : get? fields k = some v) (w : Json ρ) (keys : List String) :
    first? (put k w fields) keys = first? fields keys ∨
      (k ∈ keys ∧ first? fields keys = some v ∧ first? (put k w fields) keys = some w) := by
  induction keys with
  | nil => exact .inl rfl
  | cons key keys ih =>
    simp only [first?, List.findSome?_cons] at ih ⊢
    by_cases hk : key = k
    · rw [hk, hv, get?_put_self]
      exact .inr ⟨List.mem_cons_self, rfl, rfl⟩
    · rw [get?_put_of_ne hk]
      cases get? fields key with
      | some u => exact .inl rfl
      | none => exact ih.imp_right fun h => ⟨List.mem_cons_of_mem key h.1, h.2⟩

theorem first?_insert_of_notMem (h : k ∉ keys) :
    first? (before ++ (k, v) :: after) keys = first? (before ++ after) keys := by
  induction keys with
  | nil => rfl
  | cons l keys ih =>
    rw [List.mem_cons, not_or] at h
    simp only [first?, List.findSome?_cons, get?_insert_of_ne (Ne.symm h.1)] at ih ⊢
    rw [ih h.2]

theorem first?_insert_of_mem (hnone : first? (before ++ after) keys = none) (h : k ∈ keys) :
    first? (before ++ (k, v) :: after) keys = some v := by
  induction keys with
  | nil => exact absurd h List.not_mem_nil
  | cons l keys ih =>
    rw [first?, List.findSome?_cons] at hnone ⊢
    cases hl : get? (before ++ after) l with
    | some u => simp [hl] at hnone
    | none =>
      by_cases hk : k = l
      · rw [← hk, get?_eq_none_iff] at hl
        rw [← hk, get?_insert_self fun f hf => hl f (List.mem_append_left after hf)]
      · rw [get?_insert_of_ne (Ne.symm hk), hl]
        rw [hl] at hnone
        exact ih hnone ((List.mem_cons.1 h).resolve_left hk)

end Json

namespace Check

open Checked

variable {fields : List (String × Json ρ)} {fields' : List (String × Json σ)} {keys : List String}
  {absent : Option α} {check : Json ρ → Result ρ α} {check' : Json σ → Result σ α} {a : α}
  {v : Json ρ} {w : Json σ}

/-- The field is read as `a`: from its value, or else `a` is what stands for an absent value. -/
def Yields (fields : List (String × Json ρ)) (keys : List String) (absent : Option α)
    (check : Json ρ → Result ρ α) (a : α) : Prop :=
  (Json.first? fields keys).elim (absent = some a) fun v => check v = .ok a

theorem required_eq_ok_iff_yields :
    required fields keys (fun f => check f.1.2) = .ok a ↔ Yields fields keys none check a := by
  rw [Yields, ← Json.map_lookup?_eq_first?, required]
  cases Json.lookup? fields keys <;> simp [under, mapProblems_eq_ok_iff]

theorem optional_eq_ok_iff_yields {absent : α} :
    optional fields keys absent (fun f => check f.1.2) = .ok a ↔
      Yields fields keys (some absent) check a := by
  rw [Yields, ← Json.map_lookup?_eq_first?, optional]
  cases Json.lookup? fields keys <;> simp [under, mapProblems_eq_ok_iff, pure]

/-- What the one value is read as, the other one is read as. -/
def Carries (check : Json ρ → Result ρ α) (check' : Json σ → Result σ α) (v : Json ρ)
    (w : Json σ) : Prop :=
  ∀ a, check v = .ok a → check' w = .ok a

theorem Yields.carry (h : Yields fields keys absent check a)
    (hcarry : Option.Rel (Carries check check') (Json.first? fields keys)
      (Json.first? fields' keys)) : Yields fields' keys absent check' a := by
  rw [Yields] at h ⊢
  generalize Json.first? fields keys = x, Json.first? fields' keys = y at h hcarry
  cases hcarry with
  | none => exact h
  | some hvw => exact hvw a h

theorem Yields.of_first?_eq {fields' : List (String × Json ρ)}
    (h : Yields fields keys absent check a)
    (hfirst : Json.first? fields' keys = Json.first? fields keys) :
    Yields fields' keys absent check a := by
  rwa [Yields, hfirst]

/-! ### Values -/

theorem text_eq_ok_iff {s : String} : text v = .ok s ↔ v = .str s := by
  cases v <;> simp [text, fault, pure]

theorem eq_str_of_choice_eq_ok [Enumeration α] (h : choice α v = .ok a) :
    v = .str (Enumeration.name a) := by
  cases v with
  | str s =>
    cases hs : Enumeration.ofName? α s with
    | none => simp [choice, hs, fault] at h
    | some b =>
      obtain rfl : b = a := by simpa [choice, hs, pure] using h
      rw [Enumeration.name_of_ofName? hs]
  | _ => cases h

theorem nullable_eq_ok_iff {r : Result ρ α} {o : Option α} :
    nullable v r = .ok o ↔ (v = .null ∧ o = none) ∨ (v ≠ .null ∧ ∃ a, r = .ok a ∧ o = some a) := by
  cases v <;> simp [nullable, map_eq_ok_iff, pure, eq_comm]

theorem carries_nullable (hvw : Carries check check' v w) (hv : v ≠ .null) (hw : w ≠ .null) :
    Carries (fun v => nullable v (check v)) (fun w => nullable w (check' w)) v w := by
  intro o h
  obtain ⟨rfl, -⟩ | ⟨-, a, ha, rfl⟩ := nullable_eq_ok_iff.1 h
  · exact absurd rfl hv
  · exact nullable_eq_ok_iff.2 (.inr ⟨hw, a, hvw a ha, rfl⟩)

theorem itemsFrom_eq_ok_iff {vs : List (Json ρ)} {as : List α} {i : Nat} :
    itemsFrom i vs (fun v _ => check v) = .ok as ↔
      List.Forall₂ (fun v a => check v = .ok a) vs as := by
  induction vs generalizing i as with
  | nil => simp [itemsFrom, pure, eq_comm]
  | cons v vs ih =>
    rw [itemsFrom, seq_eq_ok_iff, List.forall₂_cons_left_iff]
    simp [map_eq_ok_iff, under, mapProblems_eq_ok_iff, ih, eq_comm (b := as)]

theorem sequence_eq_ok_iff {as : List α} : sequence check v = .ok as ↔
    ∃ vs, v = .array vs ∧ List.Forall₂ (fun v a => check v = .ok a) vs as := by
  cases v with
  | array vs => simp [sequence, parts, items, itemsFrom_eq_ok_iff]
  | _ => simp [sequence, parts, fault]

end Check

/-! ### Symbols -/

open Checked Check

variable [Holds ρ] {fields : List (String × Json ρ)}

/-- The parameter is read from the fields. -/
structure Parameter.Read (fields : List (String × Json ρ)) (p : Parameter) : Prop where
  name : Yields fields Keys.name none text p.name
  typeName : Yields fields Keys.parameterType (some "") text p.typeName

theorem Parameter.ofJson_object_eq_ok_iff {p : Parameter} :
    ofJson (.object fields) = .ok p ↔ p.Read fields := by
  constructor
  · intro h
    obtain ⟨_, typeName, h₁, htype, rfl⟩ := seq_eq_ok_iff.1 h
    obtain ⟨name, hname, rfl⟩ := map_eq_ok_iff.1 h₁
    exact ⟨required_eq_ok_iff_yields.1 hname, optional_eq_ok_iff_yields.1 htype⟩
  · intro h
    have hname := required_eq_ok_iff_yields.2 h.name
    have htype := optional_eq_ok_iff_yields.2 h.typeName
    rw [ofJson, hname, htype]
    rfl

/-- The member is read from the fields. -/
structure Member.Read (fields : List (String × Json ρ)) (m : Member) : Prop where
  kind : Yields fields Keys.memberKind none (choice MemberKind) m.kind
  name : Yields fields Keys.name none text m.name
  typeName : Yields fields Keys.memberType (some "") text m.typeName
  visibility : Yields fields Keys.visibility (some .unspecified) (choice Visibility) m.visibility
  isStatic : Yields fields Keys.isStatic (some false) flag m.isStatic
  isImplicit : Yields fields Keys.isImplicit (some false) flag m.isImplicit
  isAccessor : Yields fields Keys.isAccessor (some false) flag m.isAccessor
  parameters : Yields fields Keys.parameters (some []) (sequence Parameter.ofJson) m.parameters

theorem Member.ofJson_object_eq_ok_iff {m : Member} :
    ofJson (.object fields) = .ok m ↔ m.Read fields := by
  constructor
  · intro h
    obtain ⟨_, parameters, h₇, hparameters, rfl⟩ := seq_eq_ok_iff.1 h
    obtain ⟨_, accessor, h₆, haccessor, rfl⟩ := seq_eq_ok_iff.1 h₇
    obtain ⟨_, implicit, h₅, himplicit, rfl⟩ := seq_eq_ok_iff.1 h₆
    obtain ⟨_, static, h₄, hstatic, rfl⟩ := seq_eq_ok_iff.1 h₅
    obtain ⟨_, visibility, h₃, hvisibility, rfl⟩ := seq_eq_ok_iff.1 h₄
    obtain ⟨_, typeName, h₂, htype, rfl⟩ := seq_eq_ok_iff.1 h₃
    obtain ⟨_, name, h₁, hname, rfl⟩ := seq_eq_ok_iff.1 h₂
    obtain ⟨kind, hkind, rfl⟩ := map_eq_ok_iff.1 h₁
    exact {
      kind := required_eq_ok_iff_yields.1 hkind
      name := required_eq_ok_iff_yields.1 hname
      typeName := optional_eq_ok_iff_yields.1 htype
      visibility := optional_eq_ok_iff_yields.1 hvisibility
      isStatic := optional_eq_ok_iff_yields.1 hstatic
      isImplicit := optional_eq_ok_iff_yields.1 himplicit
      isAccessor := optional_eq_ok_iff_yields.1 haccessor
      parameters := optional_eq_ok_iff_yields.1 hparameters }
  · intro h
    rw [ofJson, required_eq_ok_iff_yields.2 h.kind, required_eq_ok_iff_yields.2 h.name,
      optional_eq_ok_iff_yields.2 h.typeName, optional_eq_ok_iff_yields.2 h.visibility,
      optional_eq_ok_iff_yields.2 h.isStatic, optional_eq_ok_iff_yields.2 h.isImplicit,
      optional_eq_ok_iff_yields.2 h.isAccessor, optional_eq_ok_iff_yields.2 h.parameters]
    rfl

/-- The type is read from the fields, which list the given interfaces, repeated ones included. -/
structure TypeSymbol.Read (fields : List (String × Json ρ)) (interfaces : List TypeSymbol)
    (t : TypeSymbol) : Prop where
  name : Yields fields Keys.name none text t.name
  kind : Yields fields Keys.kind (some .classType) (choice TypeKind) t.kind
  namespaceName : Yields fields Keys.namespaceName (some "") text t.namespaceName
  origin : Yields fields Keys.origin (some .userDefined) (choice Origin) t.origin
  special : Yields fields Keys.special (some none) (fun v => nullable v (choice SpecialType v))
    t.special
  members : Yields fields Keys.members (some []) (sequence Member.ofJson) t.members
  listed : Yields fields Keys.interfaces (some []) (sequence TypeSymbol.ofJson) interfaces
  interfaces_eq : t.interfaces = firstOccurrences interfaces
  base : Yields fields Keys.base (some none) (fun v => nullable v (ofJson v)) t.base

theorem TypeSymbol.ofJson_object_eq_ok_iff {t : TypeSymbol} :
    ofJson (.object fields) = .ok t ↔ ∃ interfaces, Read fields interfaces t := by
  rw [ofJson_object]
  constructor
  · intro h
    obtain ⟨_, base, h₇, hbase, rfl⟩ := seq_eq_ok_iff.1 h
    obtain ⟨_, interfaces, h₆, hinterfaces, rfl⟩ := seq_eq_ok_iff.1 h₇
    obtain ⟨_, members, h₅, hmembers, rfl⟩ := seq_eq_ok_iff.1 h₆
    obtain ⟨_, special, h₄, hspecial, rfl⟩ := seq_eq_ok_iff.1 h₅
    obtain ⟨_, origin, h₃, horigin, rfl⟩ := seq_eq_ok_iff.1 h₄
    obtain ⟨_, namespaceName, h₂, hnamespace, rfl⟩ := seq_eq_ok_iff.1 h₃
    obtain ⟨_, kind, h₁, hkind, rfl⟩ := seq_eq_ok_iff.1 h₂
    obtain ⟨name, hname, rfl⟩ := map_eq_ok_iff.1 h₁
    exact ⟨interfaces, {
      name := required_eq_ok_iff_yields.1 hname
      kind := optional_eq_ok_iff_yields.1 hkind
      namespaceName := optional_eq_ok_iff_yields.1 hnamespace
      origin := optional_eq_ok_iff_yields.1 horigin
      special := optional_eq_ok_iff_yields.1 hspecial
      members := optional_eq_ok_iff_yields.1 hmembers
      listed := optional_eq_ok_iff_yields.1 hinterfaces
      interfaces_eq := rfl
      base := optional_eq_ok_iff_yields.1 hbase }⟩
  · rintro ⟨interfaces, h⟩
    rw [required_eq_ok_iff_yields.2 h.name, optional_eq_ok_iff_yields.2 h.kind,
      optional_eq_ok_iff_yields.2 h.namespaceName, optional_eq_ok_iff_yields.2 h.origin,
      optional_eq_ok_iff_yields.2 h.special, optional_eq_ok_iff_yields.2 h.members,
      optional_eq_ok_iff_yields.2 h.listed, optional_eq_ok_iff_yields.2 h.base]
    refine congrArg Checked.ok ?_
    rw [assemble, ← h.interfaces_eq]
    cases t
    rfl

/-- The model is read from the fields. -/
def Model.Read (fields : List (String × Json ρ)) (m : Model) : Prop :=
  Yields fields Keys.types (some []) (sequence TypeSymbol.ofJson) m.types

theorem Model.ofJson_object_eq_ok_iff {m : Model} :
    ofJson (.object fields) = .ok m ↔ m.Read fields := by
  rw [ofJson, map_eq_ok_iff, Read, ← optional_eq_ok_iff_yields]
  constructor
  · rintro ⟨_, htypes, rfl⟩
    exact htypes
  · intro htypes
    exact ⟨_, htypes, rfl⟩

end ClassDiagram
