import ClassDiagram.Proofs.Check.Accepted
import ClassDiagram.Proofs.Json.RoundTrip
import ClassDiagram.Session.Stored

/-!
# Records and their JSON

The JSON of a record is read as the record again. A type has to list no interface twice for that, at
any depth, because the reader leaves out what is listed again.

* `TypeSymbol.ofJson_toJson` and its like say so for each record;
* `TypeSymbol.regular_toJson` and its like say that the JSON of a record can be written as a text
  and read back;
* `TypeSymbol.depth_toJson_le` and its like say that the JSON of a record is no deeper than what the
  record was read from.
-/

namespace ClassDiagram

variable {ρ : Type}

/-! ### Checks that succeed -/

namespace Checked

variable {ε α β : Type} {x : Checked ε α} {a : α}

theorem seq_ok {f : Checked ε (α → β)} {g : α → β} (hf : f = .ok g) (hx : x = .ok a) :
    f <*> x = .ok (g a) :=
  seq_eq_ok_iff.2 ⟨g, a, hf, hx, rfl⟩

theorem map_ok (g : α → β) (hx : x = .ok a) : g <$> x = .ok (g a) :=
  map_eq_ok_iff.2 ⟨a, hx, rfl⟩

end Checked

namespace Check

open Checked

variable {α : Type} {fields : List (String × Json ρ)} {k : String} {v : Json ρ} {a : α}
  {check : Json ρ → Result ρ α}

theorem exists_lookup?_of_get? (hget : Json.get? fields k = some v) (keys : List String) :
    ∃ f, Json.lookup? fields (k :: keys) = some f ∧ f.1.2 = v := by
  obtain ⟨f, hf, rfl⟩ := Option.map_eq_some_iff.1 hget
  refine ⟨⟨f, List.mem_of_find?_eq_some hf⟩, ?_, rfl⟩
  rw [Json.lookup?]
  split
  next g hg => cases hf.symm.trans hg; rfl
  next hnone => cases hf.symm.trans hnone

theorem required_ok (keys : List String) (hget : Json.get? fields k = some v)
    (hv : check v = .ok a) : required fields (k :: keys) (fun f => check f.1.2) = .ok a := by
  obtain ⟨f, hf, rfl⟩ := exists_lookup?_of_get? hget keys
  rw [required, hf]
  exact mapProblems_eq_ok_iff.2 hv

theorem optional_ok (keys : List String) (absent : α) (hget : Json.get? fields k = some v)
    (hv : check v = .ok a) :
    Check.optional fields (k :: keys) absent (fun f => check f.1.2) = .ok a := by
  obtain ⟨f, hf, rfl⟩ := exists_lookup?_of_get? hget keys
  rw [Check.optional, hf]
  exact mapProblems_eq_ok_iff.2 hv

theorem text_ok (s : String) : text (.str s : Json ρ) = .ok s := rfl

theorem flag_ok (b : Bool) : flag (.bool b : Json ρ) = .ok b := rfl

theorem choice_ok {α : Type} [Enumeration α] [LawfulEnumeration α] (a : α) :
    choice α (Enumeration.toJson a : Json ρ) = .ok a := by
  simp only [choice, Enumeration.toJson, Enumeration.ofName?_name]
  rfl

theorem itemsFrom_ok {f : α → Json ρ} {as : List α} (h : ∀ a ∈ as, check (f a) = .ok a) (i : Nat) :
    itemsFrom i (as.map f) (fun v _ => check v) = .ok as := by
  induction as generalizing i with
  | nil => rfl
  | cons a as ih =>
    rw [List.forall_mem_cons] at h
    exact seq_ok (map_ok List.cons (mapProblems_eq_ok_iff.2 h.1)) (ih h.2 (i + 1))

theorem sequence_ok {f : α → Json ρ} {as : List α} (h : ∀ a ∈ as, check (f a) = .ok a) :
    sequence check (.array (as.map f)) = .ok as :=
  itemsFrom_ok h 0

theorem list_ok {f : α → Json ρ} {as : List α} (h : ∀ a ∈ as, check (f a) = .ok a) :
    list check (.array (as.map f)) = .ok as :=
  itemsFrom_ok h 0

/-- A value that may be missing is read from null, if it is. -/
theorem nullable_ok {f : α → Json ρ} {o : Option α} (hf : ∀ a, f a ≠ .null)
    (h : ∀ a ∈ o, check (f a) = .ok a) :
    nullable (o.elim .null f) (check (o.elim .null f)) = .ok o := by
  cases o with
  | none => rfl
  | some a =>
    rw [Option.elim_some, h a rfl, nullable.eq_def]
    split
    next hnull => exact absurd hnull (hf a)
    next => rfl

theorem optional_nullable_ok (keys : List String) {f : α → Json ρ} {o : Option α}
    (hget : Json.get? fields k = some (o.elim .null f)) (hf : ∀ a, f a ≠ .null)
    (h : ∀ a ∈ o, check (f a) = .ok a) :
    Check.optional fields (k :: keys) none (fun f => nullable f.1.2 (check f.1.2)) = .ok o := by
  have hnullable := nullable_ok hf h
  obtain ⟨g, hg, hgo⟩ := exists_lookup?_of_get? hget keys
  rw [← hgo] at hnullable
  rw [Check.optional, hg]
  exact mapProblems_eq_ok_iff.2 hnullable

end Check

/-! ### Types as trees -/

namespace TypeSymbol

/-- What is inherited from the interfaces and the base of a type holds of every type. -/
@[elab_as_elim]
theorem induction {motive : TypeSymbol → Prop}
    (step : ∀ t, (∀ i ∈ t.interfaces, motive i) → (∀ b ∈ t.base, motive b) → motive t) :
    ∀ t, motive t
  | ⟨name, kind, namespaceName, origin, special, members, interfaces, base⟩ => by
    refine step _ (fun i hi => ?_) fun b hb => ?_
    · have hsize := List.sizeOf_lt_of_mem hi
      exact induction step i
    · obtain rfl : base = some b := hb
      exact induction step b

theorem listToJson_eq_map (ts : List TypeSymbol) :
    listToJson ts = ts.map (toJson (ρ := ρ)) := by
  induction ts with
  | nil => rfl
  | cons t ts ih => rw [listToJson, ih, List.map_cons]

theorem optionToJson_eq_elim (base : Option TypeSymbol) :
    optionToJson base = base.elim .null (toJson (ρ := ρ)) := by
  cases base <;> rfl

theorem toJson_eq (t : TypeSymbol) : (t.toJson : Json ρ) =
    .object [("name", .str t.name), ("kind", Enumeration.toJson t.kind),
      ("namespace", .str t.namespaceName), ("origin", Enumeration.toJson t.origin),
      ("special", t.special.elim .null Enumeration.toJson),
      ("members", .array (t.members.map Member.toJson)),
      ("implementedInterfaces", .array (t.interfaces.map toJson)),
      ("baseType", t.base.elim .null toJson)] := by
  cases t
  rw [toJson, listToJson_eq_map, optionToJson_eq_elim]

end TypeSymbol

/-! ### Reading the JSON of a record -/

section Reading

open Checked Check

theorem FilterConfig.ofJson_toJson (c : FilterConfig) : ofJson (c.toJson : Json ρ) = .ok c :=
  map_ok FilterConfig.mk (optional_ok _ _ rfl (list_ok fun s _ => text_ok s))
    |> (seq_ok · (optional_ok _ _ rfl (list_ok fun t _ => choice_ok t)))
    |> (seq_ok · (optional_ok _ _ rfl (list_ok fun t _ => choice_ok t)))

variable [Holds ρ]

theorem Parameter.ofJson_toJson (p : Parameter) : ofJson (p.toJson : Json ρ) = .ok p :=
  seq_ok (map_ok Parameter.mk (required_ok _ rfl (text_ok p.name)))
    (optional_ok _ _ rfl (text_ok p.typeName))

theorem Member.ofJson_toJson (m : Member) : ofJson (m.toJson : Json ρ) = .ok m :=
  map_ok Member.mk (required_ok _ rfl (choice_ok m.kind))
    |> (seq_ok · (required_ok _ rfl (text_ok m.name)))
    |> (seq_ok · (optional_ok _ _ rfl (text_ok m.typeName)))
    |> (seq_ok · (optional_ok _ _ rfl (choice_ok m.visibility)))
    |> (seq_ok · (optional_ok _ _ rfl (flag_ok m.isStatic)))
    |> (seq_ok · (optional_ok _ _ rfl (flag_ok m.isImplicit)))
    |> (seq_ok · (optional_ok _ _ rfl (flag_ok m.isAccessor)))
    |> (seq_ok · (optional_ok _ _ rfl (sequence_ok fun p _ => p.ofJson_toJson)))

theorem TypeSymbol.ofJson_toJson {t : TypeSymbol} (h : t.InterfacesDistinct) :
    ofJson (t.toJson : Json ρ) = .ok t := by
  induction h with
  | @intro t distinct _ _ hinterfaces hbase =>
    have hlisted : firstOccurrences t.interfaces = t.interfaces :=
      firstOccurrencesFrom_of_nodup distinct (by simp)
    -- What is put together is the type, because nothing is left out of its interfaces.
    have hassemble : assemble t.name t.kind t.namespaceName t.origin t.special t.members
        t.interfaces t.base = t := by
      cases t
      rw [assemble, hlisted]
    have hspecial (s : SpecialType) : (Enumeration.toJson s : Json ρ) ≠ .null := nofun
    have hnull (u : TypeSymbol) : (u.toJson : Json ρ) ≠ .null := by
      rw [toJson_eq]
      nofun
    rw [toJson_eq, ofJson_object]
    refine Eq.trans ?_ (congrArg ok hassemble)
    exact map_ok assemble (required_ok _ rfl (text_ok t.name))
      |> (seq_ok · (optional_ok _ _ rfl (choice_ok t.kind)))
      |> (seq_ok · (optional_ok _ _ rfl (text_ok t.namespaceName)))
      |> (seq_ok · (optional_ok _ _ rfl (choice_ok t.origin)))
      |> (seq_ok · (optional_nullable_ok _ rfl hspecial fun s _ => choice_ok s))
      |> (seq_ok · (optional_ok _ _ rfl (sequence_ok fun m _ => m.ofJson_toJson)))
      |> (seq_ok · (optional_ok _ _ rfl (sequence_ok hinterfaces)))
      |> (seq_ok · (optional_nullable_ok _ rfl hnull hbase))

theorem Model.ofJson_toJson {m : Model} (h : ∀ t ∈ m.types, t.InterfacesDistinct) :
    ofJson (m.toJson : Json ρ) = .ok m :=
  map_ok Model.mk (optional_ok _ _ rfl (sequence_ok fun t ht => TypeSymbol.ofJson_toJson (h t ht)))

theorem NamespaceRule.ofJson_toJson (r : NamespaceRule) : ofJson (r.toJson : Json ρ) = .ok r :=
  map_ok NamespaceRule.mk (required_ok _ rfl (text_ok r.pattern))

end Reading

/-! ### Writing the JSON of a record -/

section Writing

open Json

theorem Json.Regular.map {α : Type} {f : α → Document} {as : List α}
    (h : ∀ a ∈ as, Regular (f a)) : Regular (.array (as.map f)) :=
  .array (List.forall_mem_map.2 h)

theorem Json.Regular.elim {α : Type} {f : α → Document} {o : Option α}
    (h : ∀ a ∈ o, Regular (f a)) : Regular (o.elim .null f) := by
  cases o with
  | none => exact .null
  | some a => exact h a rfl

theorem Enumeration.regular_toJson {α : Type} [Enumeration α] (a : α) : Regular (toJson a) :=
  .str _

theorem Parameter.regular_toJson (p : Parameter) : Regular p.toJson := by
  refine .object (by decide : ["name", "typeName"].Nodup) ?_
  simp only [List.forall_mem_cons]
  exact ⟨.str _, .str _, by simp⟩

theorem Member.regular_toJson (m : Member) : Regular m.toJson := by
  refine .object (by decide : ["memberKind", "name", "typeName", "visibility", "isStatic",
    "isImplicit", "isAccessor", "parameters"].Nodup) ?_
  simp only [List.forall_mem_cons]
  exact ⟨.str _, .str _, .str _, .str _, .bool _, .bool _, .bool _,
    .map fun p _ => p.regular_toJson, by simp⟩

theorem TypeSymbol.regular_toJson (t : TypeSymbol) : Regular t.toJson := by
  induction t using TypeSymbol.induction with
  | step t hinterfaces hbase =>
    rw [toJson_eq]
    refine .object (by decide : ["name", "kind", "namespace", "origin", "special", "members",
      "implementedInterfaces", "baseType"].Nodup) ?_
    simp only [List.forall_mem_cons]
    exact ⟨.str _, .str _, .str _, .str _, .elim fun s _ => Enumeration.regular_toJson s,
      .map fun m _ => m.regular_toJson, .map hinterfaces, .elim hbase, by simp⟩

theorem Model.regular_toJson (m : Model) : Regular m.toJson := by
  refine .object (by decide : ["types"].Nodup) ?_
  rw [List.forall_mem_singleton]
  exact .map fun t _ => t.regular_toJson

theorem NamespaceRule.regular_toJson (r : NamespaceRule) : Regular r.toJson := by
  refine .object (by decide : ["prefix"].Nodup) ?_
  rw [List.forall_mem_singleton]
  exact .str _

theorem FilterConfig.regular_toJson (c : FilterConfig) : Regular c.toJson := by
  refine .object (by decide :
    ["frameworkNamespaces", "specialBaseTypes", "specialInterfaces"].Nodup) ?_
  simp only [List.forall_mem_cons]
  exact ⟨.map fun s _ => .str s, .map fun t _ => Enumeration.regular_toJson t,
    .map fun t _ => Enumeration.regular_toJson t, by simp⟩

end Writing

/-! ### Depth -/

section Depth

open Json

variable {fields : List (String × Document)} {n : Nat}

theorem Json.Listed.depth_add_two_le {w : Document} (h : Listed fields w) :
    w.depth + 2 ≤ (object fields).depth := by
  obtain ⟨f, hf, vs, hvs, hw⟩ := h
  have hfield := depth_object_le_iff.1 (Nat.le_refl _) f hf
  rw [hvs] at hfield
  have hitem := depth_array_le_iff.1 (Nat.le_refl _) w hw
  omega

/-- An array of what was read from items of the object fits into it. -/
theorem Json.depth_array_map_le {α : Type} {f : α → Document} {as : List α} (hn : 1 ≤ n)
    (hfields : (object fields).depth ≤ n)
    (h : ∀ a ∈ as, ∃ w, Listed fields w ∧ (f a).depth ≤ w.depth) :
    (array (as.map f)).depth + 1 ≤ n := by
  have hitems : (array (as.map f)).depth ≤ n - 1 := by
    refine depth_array_le_iff.2 (List.forall_mem_map.2 fun a ha => ?_)
    obtain ⟨w, hw, hle⟩ := h a ha
    have hdepth := hw.depth_add_two_le
    omega
  omega

theorem Parameter.depth_toJson_le {v : Document} {p : Parameter} (h : ofJson v = .ok p) :
    (p.toJson : Document).depth ≤ v.depth := by
  rcases ofJson_eq_ok h with ⟨r, -, -⟩ | ⟨fields, rfl, hne⟩
  · exact r.elim
  · exact one_le_depth_object hne

theorem Member.depth_toJson_le {v : Document} {m : Member} (h : ofJson v = .ok m) :
    (m.toJson : Document).depth ≤ v.depth := by
  rcases ofJson_eq_ok h with ⟨r, -, -⟩ | ⟨fields, rfl, hne, hparameters⟩
  · exact r.elim
  · have hone := one_le_depth_object hne
    have harray : (array (m.parameters.map Parameter.toJson)).depth + 1 ≤ (object fields).depth :=
      depth_array_map_le hone (Nat.le_refl _) fun p hp => by
        obtain ⟨w, hw, hwp⟩ := hparameters p hp
        exact ⟨w, hw, Parameter.depth_toJson_le hwp⟩
    refine depth_object_le_iff.2 ?_
    simp only [List.forall_mem_cons]
    exact ⟨hone, hone, hone, hone, hone, hone, hone, harray, by simp⟩

theorem TypeSymbol.depth_toJson_le (v : Document) {t : TypeSymbol} (h : ofJson v = .ok t) :
    (t.toJson : Document).depth ≤ v.depth := by
  rcases ofJson_eq_ok h with
    ⟨r, -, -⟩ | ⟨fields, interfaces, rfl, hne, ht, hmembers, hinterfaces, hbase⟩
  · exact r.elim
  · have hone := one_le_depth_object hne
    have hspecial : (t.special.elim null Enumeration.toJson : Document).depth = 0 := by
      cases t.special <;> rfl
    have harray : (array (t.members.map Member.toJson)).depth + 1 ≤ (object fields).depth :=
      depth_array_map_le hone (Nat.le_refl _) fun m hm => by
        obtain ⟨w, hw, hwm⟩ := hmembers m hm
        exact ⟨w, hw, Member.depth_toJson_le hwm⟩
    have hlisted : (array (t.interfaces.map toJson)).depth + 1 ≤ (object fields).depth :=
      depth_array_map_le hone (Nat.le_refl _) fun i hi => by
        rw [ht] at hi
        obtain ⟨w, hw, hwi⟩ :=
          hinterfaces i ((firstOccurrencesFrom_sublist [] interfaces).subset hi)
        have hsize := hw.sizeOf_lt
        exact ⟨w, hw, depth_toJson_le w hwi⟩
    have hextended : (t.base.elim null toJson : Document).depth + 1 ≤ (object fields).depth := by
      cases hb : t.base with
      | none => exact hone
      | some b =>
        obtain ⟨f, hf, hfb⟩ := hbase b hb
        have hsize := sizeOf_lt_of_mem_object hf
        have hle := depth_toJson_le f.2 hfb
        have hfield := depth_object_le_iff.1 (Nat.le_refl _) f hf
        rw [Option.elim_some]
        omega
    rw [toJson_eq]
    refine depth_object_le_iff.2 ?_
    simp only [List.forall_mem_cons]
    exact ⟨hone, hone, hone, hone, by omega, harray, hlisted, hextended, by simp⟩
termination_by sizeOf v

theorem Model.depth_toJson_le {v : Document} {m : Model} (h : ofJson v = .ok m) :
    (m.toJson : Document).depth ≤ max 1 v.depth := by
  rcases ofJson_eq_ok h with ⟨r, -, -⟩ | ⟨fields, rfl, htypes⟩
  · exact r.elim
  · have harray : (array (m.types.map TypeSymbol.toJson)).depth + 1 ≤ max 1 (object fields).depth :=
      depth_array_map_le (Nat.le_max_left 1 _) (Nat.le_max_right 1 _) fun t ht => by
        obtain ⟨w, hw, hwt⟩ := htypes t ht
        exact ⟨w, hw, TypeSymbol.depth_toJson_le w hwt⟩
    exact depth_object_le_iff.2 (List.forall_mem_singleton.2 harray)

theorem FilterConfig.depth_toJson_le (c : FilterConfig) : (c.toJson : Document).depth ≤ 2 := by
  have hflat {α : Type} {f : α → Document} (hf : ∀ a, (f a).depth = 0) (as : List α) :
      (array (as.map f)).depth + 1 ≤ 2 :=
    Nat.succ_le_succ (depth_array_le_iff.2 (List.forall_mem_map.2 fun a _ => by rw [hf a]))
  refine depth_object_le_iff.2 ?_
  simp only [List.forall_mem_cons]
  exact ⟨hflat (fun _ => rfl) _, hflat (fun _ => rfl) _, hflat (fun _ => rfl) _, by simp⟩

end Depth

end ClassDiagram
