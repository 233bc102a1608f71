import ClassDiagram.Proofs.Check.Outcome
import ClassDiagram.Proofs.Check.Reading
import ClassDiagram.Proofs.Check.Schema
import Mathlib.Data.List.Find
import Mathlib.Data.List.Nodup
import Mathlib.Logic.Relation

/-!
# Keys of a document

A document may spell the keys of a field in several ways, has its keys in any order, and may have
keys that mean nothing. None of that changes what is read, and the problems of a document that is
refused differ in the spelling of keys only.

* `Record.FieldsEdit` is one change of the fields of an object, `Shape.Edit` one such change at any
  place of a document;
* `Shape.SamePlace` compares paths up to the spelling of keys;
* `Model.ofJson_of_edits` says that a model is read the same way after any number of changes.
-/

namespace ClassDiagram

/-! ### Changes -/

/-- One change of the fields of an object that is to be a record. -/
inductive Record.FieldsEdit (r : Record) :
    List (String × Document) → List (String × Document) → Prop where
  /-- A field gets another of its keys, and stands under none but that one. -/
  | respell {f k l v fs gs} (hf : f ∈ r.fields) (hk : k ∈ f.keys) (hl : l ∈ f.keys)
      (halone : ∀ field ∈ fs ++ gs, field.1 ∉ f.keys) :
      FieldsEdit r (fs ++ (k, v) :: gs) (fs ++ (l, v) :: gs)
  /-- A key comes in that belongs to no field. -/
  | unknown {k v fs gs} (hk : ∀ f ∈ r.fields, k ∉ f.keys) :
      FieldsEdit r (fs ++ gs) (fs ++ (k, v) :: gs)
  /-- A field that is there comes in once more, under a key that is less preferred. -/
  | shadowed {f k l v fs gs} (hf : f ∈ r.fields) (hkl : [k, l].Sublist f.keys)
      (hk : ∃ field ∈ fs ++ gs, field.1 = k) :
      FieldsEdit r (fs ++ gs) (fs ++ (l, v) :: gs)
  /-- The fields are put into another order; an object has each key once. -/
  | reorder {fs gs} (hperm : fs.Perm gs) (hkeys : (fs.map Prod.fst).Nodup) : FieldsEdit r fs gs

/-- One change at some place of a document that is to be of a shape: of an object that is to be a
record there. -/
inductive Shape.Edit : Shape → Document → Document → Prop where
  | fields {r fs gs} (h : Record.FieldsEdit r fs gs) : Edit (.record r) (.object fs) (.object gs)
  | field {r f k v w fs} (hf : f ∈ Record.fields r) (hv : f.value? fs = some (k, v))
      (h : Edit f.shape v w) : Edit (.record r) (.object fs) (.object (Json.put k w fs))
  | item {s t v w vs ws} (hs : s.item? = some t) (h : Edit t v w) :
      Edit s (.array (vs ++ v :: ws)) (.array (vs ++ w :: ws))
  | nonnull {s v w} (h : Edit s v w) : Edit (.nullable s) v w

/-- In a document of the shape, two paths lead to one place, if the keys that they go through are
keys of the same fields. -/
inductive Shape.SamePlace : Shape → List Step → List Step → Prop where
  | same {s p} : SamePlace s p p
  | nonnull {s p q} (h : SamePlace s p q) : SamePlace (.nullable s) p q
  | item {s t i p q} (hs : s.item? = some t) (h : SamePlace t p q) :
      SamePlace s (.index i :: p) (.index i :: q)
  | field {r f k l p q} (hf : f ∈ Record.fields r) (hk : k ∈ f.keys) (hl : l ∈ f.keys)
      (h : SamePlace f.shape p q) : SamePlace (.record r) (.key k :: p) (.key l :: q)

/-- Two problems of one cause at one place. -/
def Shape.SameProblem (s : Shape) (p q : Problem Empty) : Prop :=
  p.cause = q.cause ∧ s.SamePlace p.path q.path

/-! ### Keys of fields -/

/-- A key belongs to one field of a record. -/
theorem Record.field_eq_of_mem_keys {r : Record} {f g : Field} (hf : f ∈ r.fields)
    (hg : g ∈ r.fields) {k : String} (hk : k ∈ f.keys) (hk' : k ∈ g.keys) : f = g := by
  have h : r.fields.Pairwise fun f g => k ∈ f.keys → k ∈ g.keys → f = g :=
    r.keys_disjoint.imp fun hfg hk hk' => absurd hk' (hfg k hk)
  have hflip : r.fields.Pairwise (flip fun f g => k ∈ f.keys → k ∈ g.keys → f = g) :=
    r.keys_disjoint.imp fun hfg hk hk' => absurd hk (hfg k hk')
  exact h.forall_of_forall_of_flip (fun _ _ _ _ => rfl) hflip hf hg hk hk'

/-- The keys of a field are different. -/
theorem Record.keys_nodup (r : Record) : ∀ f ∈ r.fields, f.keys.Nodup := by
  cases r <;> decide

namespace Shape.SamePlace

variable {s : Shape} {p q t : List Step}

protected theorem symm (h : s.SamePlace p q) : s.SamePlace q p := by
  induction h with
  | same => exact .same
  | nonnull _ ih => exact .nonnull ih
  | item hs _ ih => exact .item hs ih
  | field hf hk hl _ ih => exact .field hf hl hk ih

protected theorem trans (h : s.SamePlace p q) (h' : s.SamePlace q t) : s.SamePlace p t := by
  induction h generalizing t with
  | same => exact h'
  | nonnull h ih =>
    cases h' with
    | same => exact .nonnull h
    | nonnull h' => exact .nonnull (ih h')
    | item hs => simp [item?] at hs
  | item hs h ih =>
    cases h' with
    | same => exact .item hs h
    | nonnull => simp [item?] at hs
    | item hs' h' =>
      cases hs.symm.trans hs'
      exact .item hs (ih h')
  | field hf hk hl h ih =>
    cases h' with
    | same => exact .field hf hk hl h
    | field hg hl' hj h' =>
      -- The key in the middle tells that both paths go through one field.
      obtain rfl := Record.field_eq_of_mem_keys hf hg hl hl'
      exact .field hf hk hj (ih h')

end Shape.SamePlace

namespace Shape.SameProblem

variable {s : Shape}

protected theorem refl (s : Shape) (p : Problem Empty) : s.SameProblem p p := ⟨rfl, .same⟩

protected theorem symm (s : Shape) (p q : Problem Empty) (h : s.SameProblem p q) :
    s.SameProblem q p := ⟨h.1.symm, h.2.symm⟩

protected theorem trans (s : Shape) (p q t : Problem Empty) (h : s.SameProblem p q)
    (h' : s.SameProblem q t) : s.SameProblem p t := ⟨h.1.trans h'.1, h.2.trans h'.2⟩

end Shape.SameProblem

/-! ### Fields of a changed object -/

namespace Json

variable {fs gs : List (String × Document)} {k l : String} {v w : Document}

theorem get?_perm (hperm : fs.Perm gs) (hkeys : (fs.map Prod.fst).Nodup) (k : String) :
    get? fs k = get? gs k := by
  have honce : {field ∈ fs | (field.1 == k) = true}.Subsingleton := by
    rintro a ⟨ha, hak⟩ b ⟨hb, hbk⟩
    have hab : a.1 = b.1 := (eq_of_beq hak).trans (eq_of_beq hbk).symm
    exact List.inj_on_of_nodup_map hkeys ha hb hab
  rw [get?, get?, List.find?_eq_find?_of_perm hperm honce]

end Json

namespace Field

variable {f : Field} {fs gs : List (String × Document)} {k l : String} {v w : Document}

theorem value?_eq_some_iff : f.value? fs = some (k, v) ↔
    ∃ before after, f.keys = before ++ k :: after ∧ Json.get? fs k = some v ∧
      ∀ key ∈ before, Json.get? fs key = none := by
  rw [value?, List.findSome?_eq_some_iff]
  constructor
  · rintro ⟨before, key, after, hkeys, hv, hnone⟩
    obtain ⟨w, hw, h⟩ := Option.map_eq_some_iff.1 hv
    cases h
    exact ⟨before, after, hkeys, hw, by simpa using hnone⟩
  · rintro ⟨before, after, hkeys, hv, hnone⟩
    exact ⟨before, k, after, hkeys, by rw [hv]; rfl, by simpa using hnone⟩

theorem findSome?_congr {α β : Type} {p q : α → Option β} {as : List α}
    (h : ∀ a ∈ as, p a = q a) : as.findSome? p = as.findSome? q := by
  induction as with
  | nil => rfl
  | cons a as ih =>
    rw [List.findSome?_cons, List.findSome?_cons, h a List.mem_cons_self,
      ih fun b hb => h b (List.mem_cons_of_mem a hb)]

theorem value?_congr (h : ∀ key ∈ f.keys, Json.get? fs key = Json.get? gs key) :
    f.value? fs = f.value? gs :=
  findSome?_congr fun key hkey => by rw [h key hkey]

/-- A key of another field does not count. -/
theorem value?_insert_of_notMem (h : k ∉ f.keys) :
    f.value? (fs ++ (k, v) :: gs) = f.value? (fs ++ gs) :=
  value?_congr fun _ hkey => Json.get?_insert_of_ne fun hk => h (hk ▸ hkey)

/-- A field that stands under one of its keys alone has the value that is there. -/
theorem value?_of_alone (hk : k ∈ f.keys) (halone : ∀ field ∈ fs ++ gs, field.1 ∉ f.keys) :
    f.value? (fs ++ (k, v) :: gs) = some (k, v) := by
  have habsent : ∀ field ∈ fs ++ gs, ∀ key ∈ f.keys, field.1 ≠ key :=
    fun field hfield key hkey he => halone field hfield (he ▸ hkey)
  obtain ⟨before, after, hkeys, hnot⟩ := List.eq_append_cons_of_mem hk
  refine value?_eq_some_iff.2 ⟨before, after, hkeys, ?_, fun key hkey => ?_⟩
  · exact Json.get?_insert_self fun field hfield =>
      habsent field (List.mem_append_left gs hfield) k hk
  · have hne : key ≠ k := fun he => hnot (he ▸ hkey)
    have hmem : key ∈ f.keys := hkeys ▸ List.mem_append_left _ hkey
    rw [Json.get?_insert_of_ne hne, Json.get?_eq_none_iff]
    exact fun field hfield => habsent field hfield key hmem

theorem value?_put (h : f.value? fs = some (k, v)) : f.value? (Json.put k w fs) = some (k, w) := by
  obtain ⟨before, after, hkeys, hv, hnone⟩ := value?_eq_some_iff.1 h
  refine value?_eq_some_iff.2 ⟨before, after, hkeys, Json.get?_put_self k w fs, fun key hkey => ?_⟩
  have hne : key ≠ k := by
    rintro rfl
    simp [hnone key hkey] at hv
  rw [Json.get?_put_of_ne hne, hnone key hkey]

/-- Where a preferred key is there, another key of the field does not count. -/
theorem value?_insert_shadowed (hkeys : f.keys.Nodup) (hkl : [k, l].Sublist f.keys)
    (hk : ∃ field ∈ fs ++ gs, field.1 = k) :
    f.value? (fs ++ (l, v) :: gs) = f.value? (fs ++ gs) := by
  obtain ⟨before, after, hsplit, hkb, hla⟩ := List.cons_sublist_iff.1 hkl
  -- The keys up to the preferred one decide, and the other key is not among them.
  have hl : l ∉ before := by
    rw [hsplit] at hkeys
    exact fun hlb => List.disjoint_of_nodup_append hkeys hlb (List.singleton_sublist.1 hla)
  have hsame : before.findSome? (fun key => (Json.get? (fs ++ (l, v) :: gs) key).map (key, ·)) =
      before.findSome? fun key => (Json.get? (fs ++ gs) key).map (key, ·) :=
    findSome?_congr fun key hkey => by
      have hne : key ≠ l := fun he => hl (he ▸ hkey)
      rw [Json.get?_insert_of_ne hne]
  have hfound : (before.findSome? fun key => (Json.get? (fs ++ gs) key).map (key, ·)) ≠ none := by
    obtain ⟨field, hfield, rfl⟩ := hk
    intro hnone
    have hget := List.findSome?_eq_none_iff.1 hnone field.1 hkb
    exact Json.get?_eq_none_iff.1 (Option.map_eq_none_iff.1 hget) field hfield rfl
  obtain ⟨found, hfound⟩ := Option.ne_none_iff_exists'.1 hfound
  rw [value?, value?, hsplit, List.findSome?_append, List.findSome?_append, hsame, hfound,
    Option.some_or, Option.some_or]

end Field

/-- The values that a field of a record has in two objects are the same, or one is a change of the
other; the keys may differ. -/
structure Record.Corresponds (r : Record) (fs gs : List (String × Document)) (f : Field) :
    Prop where
  mem : f ∈ r.fields
  values : Option.Rel
    (fun a b => a.1 ∈ f.keys ∧ b.1 ∈ f.keys ∧ (a.2 = b.2 ∨ f.shape.Edit a.2 b.2))
    (f.value? fs) (f.value? gs)

theorem Record.Corresponds.of_eq {r : Record} {fs gs : List (String × Document)} {f : Field}
    (hf : f ∈ r.fields) (h : f.value? fs = f.value? gs) : r.Corresponds fs gs f where
  mem := hf
  values := by
    rw [h]
    cases hv : f.value? gs with
    | none => exact .none
    | some field =>
      have hk := (Field.mem_keys_of_value? hv).1
      exact .some ⟨hk, hk, .inl rfl⟩

/-- After a change of its fields, an object has a corresponding value for each field. -/
theorem Record.FieldsEdit.corresponds {r : Record} {fs gs : List (String × Document)}
    (h : r.FieldsEdit fs gs) : ∀ g ∈ r.fields, r.Corresponds fs gs g := by
  intro g hg
  cases h with
  | @respell f k l v fs gs hf hk hl halone =>
    by_cases hkg : k ∈ g.keys
    · obtain rfl := r.field_eq_of_mem_keys hf hg hk hkg
      refine ⟨hf, ?_⟩
      rw [Field.value?_of_alone hk halone, Field.value?_of_alone hl halone]
      exact .some ⟨hk, hl, .inl rfl⟩
    · have hlg : l ∉ g.keys := fun hlg => hkg (r.field_eq_of_mem_keys hf hg hl hlg ▸ hk)
      refine .of_eq hg ?_
      rw [Field.value?_insert_of_notMem hkg, Field.value?_insert_of_notMem hlg]
  | unknown hk => exact .of_eq hg (Field.value?_insert_of_notMem (hk g hg)).symm
  | @shadowed f k l v fs gs hf hkl hk =>
    by_cases hlg : l ∈ g.keys
    · have hlf : l ∈ f.keys := hkl.subset (by simp)
      obtain rfl := r.field_eq_of_mem_keys hf hg hlf hlg
      exact .of_eq hf (Field.value?_insert_shadowed (r.keys_nodup f hf) hkl hk).symm
    · exact .of_eq hg (Field.value?_insert_of_notMem hlg).symm
  | reorder hperm hkeys =>
    exact .of_eq hg (Field.value?_congr fun key _ => Json.get?_perm hperm hkeys key)

/-- A change of a document that is to be a record leads from an object to an object with a
corresponding value for each field. -/
theorem Shape.Edit.corresponds {r : Record} {v w : Document} (h : (Shape.record r).Edit v w) :
    ∃ fs gs, v = .object fs ∧ w = .object gs ∧ ∀ g ∈ r.fields, r.Corresponds fs gs g := by
  cases h with
  | fields h => exact ⟨_, _, rfl, rfl, h.corresponds⟩
  | item hs => simp [item?] at hs
  | @field _ f k v w fs hf hv h =>
    refine ⟨_, _, rfl, rfl, fun g hg => ?_⟩
    have hk := (Field.mem_keys_of_value? hv).1
    by_cases hkg : k ∈ g.keys
    · obtain rfl := r.field_eq_of_mem_keys hf hg hk hkg
      refine ⟨hf, ?_⟩
      rw [hv, Field.value?_put hv]
      exact .some ⟨hk, hk, .inr h⟩
    · refine .of_eq hg (Field.value?_congr fun key hkey => ?_)
      have hne : key ≠ k := fun he => hkg (he ▸ hkey)
      rw [Json.get?_put_of_ne hne]

/-! ### Checks of changed values -/

/-- A check comes to the same for a value and for what one change makes of it. -/
def Shape.StableAt {α : Type} (s : Shape) (check : Document → Check.Result Empty α)
    (v : Document) : Prop :=
  ∀ w, s.Edit v w → Checked.Alike s.SameProblem (check v) (check w)

namespace Shape

variable {s t : Shape} {v w : Document}

/-- There is nothing to change within a value that is checked as a whole. -/
theorem Edit.isCompound (h : s.Edit v w) : s ≠ .text ∧ s ≠ .flag ∧ ∀ names, s ≠ .choice names := by
  cases h with
  | fields => simp
  | field => simp
  | item hs => refine ⟨?_, ?_, fun names => ?_⟩ <;> rintro rfl <;> simp [item?] at hs
  | nonnull => simp

theorem Edit.ne_null (h : s.Edit v w) : v ≠ .null ∧ w ≠ .null := by
  induction h with
  | fields => simp
  | field => simp
  | item => simp
  | nonnull _ ih => exact ih

theorem SameProblem.under_key {r : Record} {f : Field} {k l : String} {p q : Problem Empty}
    (hf : f ∈ r.fields) (hk : k ∈ f.keys) (hl : l ∈ f.keys) (h : f.shape.SameProblem p q) :
    (record r).SameProblem (p.under (.key k)) (q.under (.key l)) :=
  ⟨h.1, .field hf hk hl h.2⟩

theorem SameProblem.under_index {i : Nat} {p q : Problem Empty} (hs : s.item? = some t)
    (h : t.SameProblem p q) : s.SameProblem (p.under (.index i)) (q.under (.index i)) :=
  ⟨h.1, .item hs h.2⟩

theorem SameProblem.of_nullable {p q : Problem Empty} (h : s.SameProblem p q) :
    (nullable s).SameProblem p q :=
  ⟨h.1, .nonnull h.2⟩

end Shape

namespace Check

open Checked Shape

variable {α : Type} {s t : Shape} {v : Document} {check : Document → Result Empty α}

theorem stableAt_text (v : Document) : Shape.text.StableAt text v :=
  fun _ h => absurd rfl h.isCompound.1

theorem stableAt_flag (v : Document) : Shape.flag.StableAt flag v :=
  fun _ h => absurd rfl h.isCompound.2.1

theorem stableAt_choice (α : Type) [Enumeration α] (v : Document) :
    (oneOf α).StableAt (choice α) v :=
  fun _ h => absurd rfl (h.isCompound.2.2 _)

theorem stableAt_nullable (h : s.StableAt check v) :
    (Shape.nullable s).StableAt (fun v => nullable v (check v)) v := by
  intro w hedit
  cases hedit with
  | item hs => simp [item?] at hs
  | nonnull hedit =>
    have hnull {u : Document} (hu : u ≠ .null) : nullable u (check u) = some <$> check u := by
      cases u <;> first | rfl | exact absurd rfl hu
    have halike : Alike (Shape.nullable s).SameProblem (check v) (check w) :=
      (h w hedit).imp fun _ _ => .of_nullable
    simp only [hnull hedit.ne_null.1, hnull hedit.ne_null.2]
    exact halike.map some

/-- Items that are checked one by one come to the same, if one of them changes. -/
theorem alike_itemsFrom (hs : s.item? = some t) {v w : Document}
    (h : Alike t.SameProblem (check v) (check w)) (vs ws : List Document) (i : Nat) :
    Alike s.SameProblem (itemsFrom i (vs ++ v :: ws) fun u _ => check u)
      (itemsFrom i (vs ++ w :: ws) fun u _ => check u) := by
  induction vs generalizing i with
  | nil =>
    have hv : Alike s.SameProblem (under (.index i) (check v)) (under (.index i) (check w)) :=
      h.mapProblems fun _ _ => .under_index hs
    exact (hv.map List.cons).seq (.refl (.refl s) _)
  | cons u vs ih =>
    exact (Alike.refl (.refl s) _).seq (ih (i + 1))

theorem stableAt_sequence (h : ∀ w, sizeOf w < sizeOf v → t.StableAt check w) :
    (Shape.sequence t).StableAt (sequence check) v := by
  intro w hedit
  cases hedit with
  | @item _ t v w vs ws hs hedit =>
    cases hs
    have hsize : sizeOf v < sizeOf (Json.array (vs ++ v :: ws)) :=
      Json.sizeOf_lt_of_mem_array (by simp)
    exact alike_itemsFrom rfl (h v hsize w hedit) vs ws 0

end Check

namespace Record.Corresponds

open Checked

variable {α : Type} {r : Record} {keys : List String} {s : Shape}
  {fs gs : List (String × Document)} {check : Document → Check.Result Empty α}

/-- Both objects have the field or none has it, and if they do, its values come to the same. -/
theorem lookup? {f : Field} (h : r.Corresponds fs gs f)
    (hcheck : ∀ a : Json.FieldOf fs, f.shape.StableAt check a.1.2) :
    Option.Rel (fun (a : Json.FieldOf fs) (b : Json.FieldOf gs) =>
      Alike (Shape.record r).SameProblem (Check.under (.key a.1.1) (check a.1.2))
        (Check.under (.key b.1.1) (check b.1.2)))
      (Json.lookup? fs f.keys) (Json.lookup? gs f.keys) := by
  have hvalues := h.values
  rw [← f.map_lookup?, ← f.map_lookup?] at hvalues
  generalize Json.lookup? fs f.keys = x, Json.lookup? gs f.keys = y at hvalues
  cases x with
  | none =>
    cases y with
    | none => exact .none
    | some b => cases hvalues
  | some a =>
    cases y with
    | none => cases hvalues
    | some b =>
      cases hvalues with
      | some hab =>
        obtain ⟨hk, hl, hv⟩ := hab
        have halike : Alike f.shape.SameProblem (check a.1.2) (check b.1.2) := by
          rcases hv with hv | hv
          · rw [hv]
            exact .refl (.refl f.shape) _
          · exact hcheck a _ hv
        exact .some (halike.mapProblems fun _ _ => .under_key h.mem hk hl)

theorem required (h : r.Corresponds fs gs (.required keys s))
    (hcheck : ∀ a : Json.FieldOf fs, s.StableAt check a.1.2) :
    Alike (Shape.record r).SameProblem (Check.required fs keys fun a => check a.1.2)
      (Check.required gs keys fun a => check a.1.2) := by
  have hrel := h.lookup? hcheck
  simp only [Field.required] at hrel
  rw [Check.required, Check.required]
  generalize Json.lookup? fs keys = x, Json.lookup? gs keys = y at hrel
  cases hrel with
  | none => exact .bad ⟨rfl, .same⟩ .nil
  | some halike => exact halike

theorem optional (h : r.Corresponds fs gs (.optional keys s)) (absent : α)
    (hcheck : ∀ a : Json.FieldOf fs, s.StableAt check a.1.2) :
    Alike (Shape.record r).SameProblem (Check.optional fs keys absent fun a => check a.1.2)
      (Check.optional gs keys absent fun a => check a.1.2) := by
  have hrel := h.lookup? hcheck
  simp only [Field.optional] at hrel
  rw [Check.optional, Check.optional]
  generalize Json.lookup? fs keys = x, Json.lookup? gs keys = y at hrel
  cases hrel with
  | none => exact .ok absent
  | some halike => exact halike

end Record.Corresponds

/-! ### Records -/

open Checked Check

theorem Parameter.stableAt_ofJson (v : Document) : (Shape.record .parameter).StableAt ofJson v := by
  intro w hedit
  obtain ⟨fs, gs, rfl, rfl, hfields⟩ := hedit.corresponds
  simp only [Record.fields, List.forall_mem_cons] at hfields
  obtain ⟨hname, htype, -⟩ := hfields
  exact ((hname.required fun a => stableAt_text a.1.2).map _).seq
    (htype.optional "" fun a => stableAt_text a.1.2)

theorem Member.stableAt_ofJson (v : Document) : (Shape.record .member).StableAt ofJson v := by
  intro w hedit
  obtain ⟨fs, gs, rfl, rfl, hfields⟩ := hedit.corresponds
  simp only [Record.fields, List.forall_mem_cons] at hfields
  obtain ⟨hkind, hname, htype, hvisibility, hstatic, himplicit, haccessor, hparameters, -⟩ :=
    hfields
  exact ((hkind.required fun a => stableAt_choice MemberKind a.1.2).map _)
    |>.seq (hname.required fun a => stableAt_text a.1.2)
    |>.seq (htype.optional "" fun a => stableAt_text a.1.2)
    |>.seq (hvisibility.optional .unspecified fun a => stableAt_choice Visibility a.1.2)
    |>.seq (hstatic.optional false fun a => stableAt_flag a.1.2)
    |>.seq (himplicit.optional false fun a => stableAt_flag a.1.2)
    |>.seq (haccessor.optional false fun a => stableAt_flag a.1.2)
    |>.seq (hparameters.optional [] fun a =>
      stableAt_sequence fun w _ => Parameter.stableAt_ofJson w)

theorem TypeSymbol.stableAt_ofJson (v : Document) : (Shape.record .type).StableAt ofJson v := by
  intro w hedit
  obtain ⟨fs, gs, hv, rfl, hfields⟩ := hedit.corresponds
  simp only [Record.fields, List.forall_mem_cons] at hfields
  obtain ⟨hname, hkind, hspace, horigin, hspecial, hmembers, hinterfaces, hbase, -⟩ := hfields
  -- The types inside are parts of fields, so that they are smaller than the object.
  have hsize (a : Json.FieldOf fs) : sizeOf a.1.2 < sizeOf v :=
    hv ▸ Json.sizeOf_lt_of_mem_object a.2
  have hlisted (a : Json.FieldOf fs) :
      (Shape.sequence (.record .type)).StableAt (Check.sequence ofJson) a.1.2 :=
    stableAt_sequence fun w hw => TypeSymbol.stableAt_ofJson w
  have hbased (a : Json.FieldOf fs) :
      (Shape.nullable (.record .type)).StableAt (fun v => Check.nullable v (ofJson v)) a.1.2 :=
    stableAt_nullable (TypeSymbol.stableAt_ofJson a.1.2)
  rw [hv, ofJson_object, ofJson_object]
  have hhead := ((hname.required fun a => stableAt_text a.1.2).map TypeSymbol.assemble)
    |>.seq (hkind.optional .classType fun a => stableAt_choice TypeKind a.1.2)
    |>.seq (hspace.optional "" fun a => stableAt_text a.1.2)
    |>.seq (horigin.optional .userDefined fun a => stableAt_choice Origin a.1.2)
  exact hhead
    |>.seq (hspecial.optional none fun a => stableAt_nullable (stableAt_choice SpecialType a.1.2))
    |>.seq (hmembers.optional [] fun a => stableAt_sequence fun w _ => Member.stableAt_ofJson w)
    |>.seq (hinterfaces.optional [] hlisted)
    |>.seq (hbase.optional none hbased)
termination_by sizeOf v
decreasing_by
  · exact Nat.lt_trans hw (hsize a)
  · exact hsize a

namespace Model

theorem stableAt_ofJson (v : Document) : (Shape.record .model).StableAt ofJson v := by
  intro w hedit
  obtain ⟨fs, gs, rfl, rfl, hfields⟩ := hedit.corresponds
  simp only [Record.fields, List.forall_mem_cons] at hfields
  obtain ⟨htypes, -⟩ := hfields
  have hlisted := htypes.optional [] fun a =>
    stableAt_sequence fun w _ => TypeSymbol.stableAt_ofJson w
  exact hlisted.map Model.mk

/-- Any number of changes comes to the same. -/
theorem alike_ofJson {v w : Document} (h : Relation.EqvGen (Shape.record .model).Edit v w) :
    Alike (Shape.record .model).SameProblem (ofJson v) (ofJson w) := by
  induction h with
  | rel v w hedit => exact stableAt_ofJson v w hedit
  | refl v => exact .refl (.refl _) _
  | symm v w _ ih => exact ih.symm (.symm _)
  | trans u v w _ _ ih ih' => exact ih.trans (.trans _) ih'

/-- **The spelling of keys, their order and unknown keys do not matter.** However often and wherever
a document is changed in such ways, in one direction or the other, it is read as the same model as
before. If it is refused, it is refused for the same causes in the same order, at the same places up
to the spelling of keys. -/
theorem ofJson_of_edits {v w : Document} (h : Relation.EqvGen (Shape.record .model).Edit v w) :
    (∀ m, ofJson v = .ok m ↔ ofJson w = .ok m) ∧
    List.Forall₂ (fun p q => p.cause = q.cause ∧ (Shape.record .model).SamePlace p.path q.path)
      (ofJson v).problems (ofJson w).problems :=
  ⟨(alike_ofJson h).eq_ok_iff, (alike_ofJson h).problems⟩

/-- A model of one type with these fields. -/
def documentOf (fields : List (String × Document)) : Document :=
  .object [("types", .array [.object fields])]

theorem edit_documentOf {fs gs : List (String × Document)} (h : Record.type.FieldsEdit fs gs) :
    (Shape.record .model).Edit (documentOf fs) (documentOf gs) := by
  have hitem : (Shape.sequence (.record .type)).Edit (.array [.object fs]) (.array [.object gs]) :=
    @Shape.Edit.item _ _ _ _ [] [] rfl (.fields h)
  have hvalue : (Field.optional Keys.types (.sequence (.record .type))).value?
      [("types", .array [.object fs])] = some ("types", .array [.object fs]) := rfl
  exact .field List.mem_cons_self hvalue hitem

/-- A nameless interface is refused at one place, whichever key lists it. -/
theorem ofJson_of_edits_nameless :
    List.Forall₂ (fun p q => p.cause = q.cause ∧ (Shape.record .model).SamePlace p.path q.path)
      (ofJson (documentOf [("name", .str "Shop"), ("implemented_interfaces", .array [.object []]),
        ("note", .null)])).problems
      (ofJson (documentOf [("implementedInterfaces", .array [.object []]),
        ("name", .str "Shop")])).problems := by
  have hunknown := @Record.FieldsEdit.unknown .type "note" .null
    [("name", .str "Shop"), ("implemented_interfaces", .array [.object []])] [] (by decide)
  have hrespell := @Record.FieldsEdit.respell .type
    (.optional Keys.interfaces (.sequence (.record .type)))
    "implemented_interfaces" "implementedInterfaces" (.array [.object []])
    [("name", .str "Shop")] [] (by simp [Record.fields]) (by decide) (by decide)
    (by simp [Field.optional, Keys.interfaces])
  have hreorder := Record.FieldsEdit.reorder (r := .type)
    (.swap ("implementedInterfaces", .array [.object []]) ("name", .str "Shop") []) (by decide)
  exact (ofJson_of_edits (.trans _ _ _ (.symm _ _ (.rel _ _ (edit_documentOf hunknown)))
    (.trans _ _ _ (.rel _ _ (edit_documentOf hrespell))
      (.rel _ _ (edit_documentOf hreorder))))).2

end Model

end ClassDiagram
