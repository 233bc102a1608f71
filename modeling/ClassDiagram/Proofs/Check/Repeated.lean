import ClassDiagram.Proofs.Diagram.Account
import Mathlib.Logic.Relation

/-!
# Repeated interfaces of a snapshot

Of the interfaces with one namespace and name that an array lists, the first one counts, at every
depth. The later ones can be left out, one after the other and wherever they are, and the model
stays the same. Nothing else is left out: all other lists keep what they list.

* `Entry.Omits` and `Document.Omits` leave out one interface that is listed again;
* `Entry.Lists` compares the lists of an entry with those of a type, at every depth;
* `Model.ofJson_drops_repeats` is about snapshots that are accepted.
-/

namespace ClassDiagram

open Checked Check

/-! ### Omissions -/

/-- In the entry of a type, an interface is left out whose namespace and name were listed before, in
the array of the type or, at any depth, in that of one of its interfaces or of its base. -/
inductive Entry.Omits : Entry → Entry → Prop where
  | repeated {k fs as x bs} (hk : k ∈ Keys.interfaces)
      (hv : Json.get? fs k = some (.array (as ++ x :: bs)))
      (hx : identity x ∈ as.map identity) :
      Omits (.object fs) (.object (Json.put k (.array (as ++ bs)) fs))
  | interface {k fs as x y bs} (hk : k ∈ Keys.interfaces)
      (hv : Json.get? fs k = some (.array (as ++ x :: bs))) (h : Omits x y) :
      Omits (.object fs) (.object (Json.put k (.array (as ++ y :: bs)) fs))
  | base {k fs x y} (hk : k ∈ Keys.base) (hv : Json.get? fs k = some x) (h : Omits x y) :
      Omits (.object fs) (.object (Json.put k y fs))

/-- In a snapshot, an interface is left out from the entry of one of its types. -/
inductive Document.Omits : Document → Document → Prop where
  | type {k fs as x y bs} (hk : k ∈ Keys.types)
      (hv : Json.get? fs k = some (.array (as ++ x :: bs))) (h : Entry.Omits x y) :
      Omits (.object fs) (.object (Json.put k (.array (as ++ y :: bs)) fs))

/-! ### Lists -/

/-- The member lists all parameters of its entry. -/
structure Member.ListsAll (d : Document) (m : Member) : Prop where
  accepted : Member.ofJson d = .ok m
  parameters : List.Forall₂ (fun e p => Parameter.ofJson e = .ok p)
    (d.itemsUnder Keys.parameters) m.parameters

/-- The type lists what its entry lists, in the same order: of the interfaces the first one of each
namespace and name, and all members. That holds of its interfaces and of its base as well. -/
inductive Entry.Lists : Entry → TypeSymbol → Prop where
  | intro {w t} (accepted : TypeSymbol.ofJson w = .ok t)
      (interfaces : List.Forall₂ Lists (firstsBy identity (interfaces w)) t.interfaces)
      (base : Option.Rel Lists (base? w) t.base)
      (members : List.Forall₂ Member.ListsAll (Document.itemsUnder Keys.members w) t.members) :
      Lists w t

section Pairs

variable {α β : Type} {R S : α → β → Prop} {a : α} {as bs : List α} {cs : List β}

theorem forall₂_append_cons_iff : List.Forall₂ R (as ++ a :: bs) cs ↔
    ∃ us u vs, cs = us ++ u :: vs ∧ List.Forall₂ R as us ∧ R a u ∧ List.Forall₂ R bs vs := by
  constructor
  · intro h
    induction as generalizing cs with
    | nil =>
      obtain ⟨u, vs, hu, hvs, rfl⟩ := List.forall₂_cons_left_iff.1 h
      exact ⟨[], u, vs, rfl, .nil, hu, hvs⟩
    | cons b as ih =>
      obtain ⟨c, cs, hc, hcs, rfl⟩ := List.forall₂_cons_left_iff.1 h
      obtain ⟨us, u, vs, rfl, hus, hu, hvs⟩ := ih hcs
      exact ⟨c :: us, u, vs, rfl, .cons hc hus, hu, hvs⟩
  · rintro ⟨us, u, vs, rfl, hus, hu, hvs⟩
    exact List.rel_append hus (.cons hu hvs)

theorem forall₂_imp_of_mem (h : List.Forall₂ R as cs) (hRS : ∀ a ∈ as, ∀ c, R a c → S a c) :
    List.Forall₂ S as cs := by
  induction h with
  | nil => exact .nil
  | cons hR _ ih =>
    rw [List.forall_mem_cons] at hRS
    exact .cons (hRS.1 _ hR) (ih hRS.2)

end Pairs

/-! ### Omissions and checks -/

theorem Entry.Omits.ne_null {v w : Entry} (h : Omits v w) : v ≠ .null ∧ w ≠ .null := by
  cases h <;> simp

namespace Check

variable {α : Type} {fs : List (String × Document)} {k : String} {keys : List String}
  {absent : Option α} {check : Document → Result Empty α}

theorem Yields.put_of_notMem {a : α} (h : Yields fs keys absent check a) (hk : k ∉ keys)
    (hv : ∃ v, Json.get? fs k = some v) (w : Document) :
    Yields (Json.put k w fs) keys absent check a := by
  obtain ⟨v, hv⟩ := hv
  exact h.of_first?_eq ((Json.first?_put hv w keys).resolve_right fun h => hk h.1)

/-- Another value under a key of the field is read alike, or it makes no difference. -/
theorem Yields.put {S : α → α → Prop} (hrefl : ∀ a, S a a) {v w : Document} {a : α}
    (h : Yields fs keys absent check a) (hv : Json.get? fs k = some v)
    (hvw : check v = .ok a → ∃ b, check w = .ok b ∧ S a b) :
    ∃ b, Yields (Json.put k w fs) keys absent check b ∧ S a b := by
  rcases Json.first?_put hv w keys with hsame | ⟨-, hfirst, hput⟩
  · exact ⟨a, h.of_first?_eq hsame, hrefl a⟩
  · rw [Yields, hfirst] at h
    obtain ⟨b, hb, hab⟩ := hvw h
    refine ⟨b, ?_, hab⟩
    rw [Yields, hput]
    exact hb

theorem Yields.put_of_carries {v w : Document} {a : α} (h : Yields fs keys absent check a)
    (hv : Json.get? fs k = some v) (hvw : Carries check check v w) :
    Yields (Json.put k w fs) keys absent check a := by
  obtain ⟨b, hb, rfl⟩ := h.put Eq.refl hv fun ha => ⟨a, hvw a ha, rfl⟩
  exact hb

theorem carries_sequence {x y : Document} (hxy : Carries check check x y) (as bs : List Document) :
    Carries (sequence check) (sequence check) (.array (as ++ x :: bs))
      (.array (as ++ y :: bs)) := by
  intro us h
  obtain ⟨_, ⟨⟩, hus⟩ := sequence_eq_ok_iff.1 h
  obtain ⟨us, u, vs, rfl, has, hu, hbs⟩ := forall₂_append_cons_iff.1 hus
  have hys := forall₂_append_cons_iff.2 ⟨us, u, vs, rfl, has, hxy u hu, hbs⟩
  exact sequence_eq_ok_iff.2 ⟨_, rfl, hys⟩

end Check

namespace TypeSymbol

variable {fs : List (String × Document)} {k : String} {v w : Document} {t : TypeSymbol}
  {is js : List TypeSymbol}

/-- The types of an array have the namespaces and names of their entries. -/
theorem map_identity_of_forall₂ {ws : List Entry} {ts : List TypeSymbol}
    (h : List.Forall₂ (fun w t => ofJson w = .ok t) ws ts) :
    ws.map Entry.identity = ts.map identity := by
  rw [← List.forall₂_eq_eq_eq, List.forall₂_map_left_iff, List.forall₂_map_right_iff]
  exact h.imp fun w t ht => (describes_of_ofJson ht).identity_eq

/-- Of the fields of a type only those two can change that list types. -/
theorem Read.put (h : Read fs is t) (hk : k ∈ Keys.interfaces ++ Keys.base)
    (hv : Json.get? fs k = some v) (hfirsts : firstOccurrences is = firstOccurrences js)
    (hlisted : Yields (Json.put k w fs) Keys.interfaces (some []) (sequence ofJson) js)
    (hbase : Yields (Json.put k w fs) Keys.base (some none) (fun v => nullable v (ofJson v))
      t.base) : Read (Json.put k w fs) js t := by
  have hapart : ∀ l ∈ Keys.interfaces ++ Keys.base, ∀ keys ∈ [Keys.name, Keys.kind,
      Keys.namespaceName, Keys.origin, Keys.special, Keys.members], l ∉ keys := by decide
  replace hapart := hapart k hk
  simp only [List.forall_mem_cons] at hapart
  obtain ⟨hname, hkind, hspace, horigin, hspecial, hmembers, -⟩ := hapart
  exact {
    name := h.name.put_of_notMem hname ⟨v, hv⟩ w
    kind := h.kind.put_of_notMem hkind ⟨v, hv⟩ w
    namespaceName := h.namespaceName.put_of_notMem hspace ⟨v, hv⟩ w
    origin := h.origin.put_of_notMem horigin ⟨v, hv⟩ w
    special := h.special.put_of_notMem hspecial ⟨v, hv⟩ w
    members := h.members.put_of_notMem hmembers ⟨v, hv⟩ w
    listed := hlisted
    interfaces_eq := h.interfaces_eq.trans hfirsts
    base := hbase }

/-- An interface that is listed again is checked, and then left out. -/
theorem sequence_ofJson_omit {as bs : List Entry} {x : Entry}
    (hx : x.identity ∈ as.map Entry.identity)
    (h : sequence ofJson (.array (as ++ x :: bs)) = .ok is) :
    ∃ js, sequence ofJson (.array (as ++ bs)) = .ok js ∧
      firstOccurrences is = firstOccurrences js := by
  obtain ⟨_, ⟨⟩, his⟩ := sequence_eq_ok_iff.1 h
  obtain ⟨us, u, vs, rfl, has, hu, hbs⟩ := forall₂_append_cons_iff.1 his
  refine ⟨us ++ vs, sequence_eq_ok_iff.2 ⟨_, rfl, List.rel_append has hbs⟩, ?_⟩
  have hmem : [u].map identity ⊆ us.map identity := by
    rw [List.map_singleton, ← (describes_of_ofJson hu).identity_eq, ← map_identity_of_forall₂ has]
    simpa using hx
  rw [firstOccurrences_eq, firstOccurrences_eq, ← firstsBy_append_of_subset hmem vs,
    List.append_assoc, List.singleton_append]

theorem ofJson_of_omits (h : Entry.Omits v w) : Carries ofJson ofJson v w := by
  have hapart : ∀ k ∈ Keys.interfaces, k ∉ Keys.base := by decide
  induction h with
  | repeated hk hv hx =>
    intro t ht
    obtain ⟨is, hread⟩ := ofJson_object_eq_ok_iff.1 ht
    obtain ⟨js, hlisted, hfirsts⟩ := hread.listed.put
      (S := fun is js => firstOccurrences is = firstOccurrences js) (fun _ => rfl) hv
      fun h => sequence_ofJson_omit hx h
    have hbase := hread.base.put_of_notMem (hapart _ hk) ⟨_, hv⟩
    exact ofJson_object_eq_ok_iff.2
      ⟨js, hread.put (List.mem_append_left _ hk) hv hfirsts hlisted (hbase _)⟩
  | interface hk hv _ ih =>
    intro t ht
    obtain ⟨is, hread⟩ := ofJson_object_eq_ok_iff.1 ht
    have hlisted := hread.listed.put_of_carries hv (carries_sequence ih _ _)
    have hbase := hread.base.put_of_notMem (hapart _ hk) ⟨_, hv⟩
    exact ofJson_object_eq_ok_iff.2
      ⟨is, hread.put (List.mem_append_left _ hk) hv rfl hlisted (hbase _)⟩
  | base hk hv h ih =>
    intro t ht
    obtain ⟨is, hread⟩ := ofJson_object_eq_ok_iff.1 ht
    have hlisted := hread.listed.put_of_notMem (fun hi => hapart _ hi hk) ⟨_, hv⟩
    have hbase := hread.base.put_of_carries hv (carries_nullable ih h.ne_null.1 h.ne_null.2)
    exact ofJson_object_eq_ok_iff.2
      ⟨is, hread.put (List.mem_append_right _ hk) hv rfl (hlisted _) hbase⟩

end TypeSymbol

/-! ### Lists of an entry -/

theorem Member.listsAll_of_ofJson {d : Document} {m : Member} (h : ofJson d = .ok m) :
    m.ListsAll d := by
  cases d with
  | object fields =>
    have hread := ofJson_object_eq_ok_iff.1 h
    exact ⟨h, itemsUnder_of_optional (optional_eq_ok_iff_yields.2 hread.parameters)⟩
  | ready r => exact r.elim
  | _ => cases h

theorem TypeSymbol.members_of_ofJson {w : Entry} {t : TypeSymbol} (h : ofJson w = .ok t) :
    List.Forall₂ Member.ListsAll (w.itemsUnder Keys.members) t.members := by
  cases w with
  | object fields =>
    obtain ⟨is, hread⟩ := ofJson_object_eq_ok_iff.1 h
    have hmembers := itemsUnder_of_optional (optional_eq_ok_iff_yields.2 hread.members)
    exact hmembers.imp fun d m => Member.listsAll_of_ofJson
  | ready r => exact r.elim
  | _ =>
    rw [ofJson] at h
    cases h
    all_goals simp

theorem Entry.lists_of_ofJson (w : Entry) {t : TypeSymbol} (h : TypeSymbol.ofJson w = .ok t) :
    w.Lists t := by
  have hw := TypeSymbol.describes_of_ofJson h
  obtain ⟨is, his, hlisted⟩ := hw.interfaces_eq
  have hfirsts : List.Forall₂ (fun v i => TypeSymbol.ofJson v = .ok i)
      (firstsBy identity w.interfaces) (firstsBy TypeSymbol.identity is) :=
    forall₂_firstsBy (fun v i hvi => (TypeSymbol.describes_of_ofJson hvi).identity_eq) hlisted
  rw [← TypeSymbol.firstOccurrences_eq, ← his] at hfirsts
  refine .intro h (forall₂_imp_of_mem hfirsts fun v hv i hi => lists_of_ofJson v hi) ?_
    (TypeSymbol.members_of_ofJson h)
  have hbase := hw.base_eq
  generalize hb : w.base? = b, t.base = c at hbase
  cases hbase with
  | none => exact .none
  | some hvb => exact .some (lists_of_ofJson _ hvb)
termination_by sizeOf w
decreasing_by
  · exact Document.sizeOf_lt_of_mem_itemsUnder (firstsBy_subset identity _ hv)
  · exact Document.sizeOf_lt_of_under? (base?_eq_some_iff.1 hb).1

/-! ### Models -/

namespace Model

theorem ofJson_of_omits {v w : Document} (h : v.Omits w) : Carries ofJson ofJson v w := by
  obtain ⟨-, hv, hxy⟩ := h
  intro m hm
  have hread := ofJson_object_eq_ok_iff.1 hm
  exact ofJson_object_eq_ok_iff.2
    (hread.put_of_carries hv (carries_sequence (TypeSymbol.ofJson_of_omits hxy) _ _))

/-- **Of repeated interfaces the first ones count, at every depth, and only the others are left
out.** However many interfaces are left out of a snapshot, one after the other and wherever they
are, as long as each was listed before in its array, the model is the same. The interfaces of its
types, at every depth, are those that were read from the first entries of each namespace and name;
its types, members and parameters are those that were read from all entries. All are in the order of
the snapshot. -/
theorem ofJson_drops_repeats {v : Document} {m : Model} (h : ofJson v = .ok m) :
    (∀ w, Relation.ReflTransGen Document.Omits v w → ofJson w = .ok m) ∧
      List.Forall₂ Entry.Lists (v.itemsUnder Keys.types) m.types := by
  constructor
  · intro w hw
    induction hw with
    | refl => exact h
    | tail _ homits ih => exact ofJson_of_omits homits m ih
  · exact (forall₂_types_of_ofJson h).imp fun w t => Entry.lists_of_ofJson w

/-- A snapshot of a class whose base implements an interface, and more of them. -/
def snapshotOf (more : List Entry) : Document :=
  .object [("types", .array [.object [("name", .str "Shop"), ("baseType", .object
    [("name", .str "Store"), ("implemented_interfaces", .array (.object [("name", .str "I")] ::
      more))])]])]

theorem ofJson_drops_repeats_base :
    ∃ m, ofJson (snapshotOf [repeatedEntry]) = .ok m ∧ ofJson (snapshotOf []) = .ok m ∧
      List.Forall₂ Entry.Lists ((snapshotOf [repeatedEntry]).itemsUnder Keys.types) m.types := by
  obtain ⟨m, hm⟩ := exists_ok_iff.2 (List.isEmpty_iff.1 (by decide +kernel :
    (ofJson (snapshotOf [repeatedEntry])).problems.isEmpty = true))
  have hrepeated := @Entry.Omits.repeated "implemented_interfaces" [("name", .str "Store"),
    ("implemented_interfaces", .array [.object [("name", .str "I")], repeatedEntry])]
    [.object [("name", .str "I")]] repeatedEntry [] (by decide) rfl (by decide +kernel)
  have hbase := @Entry.Omits.base "baseType" [("name", .str "Shop"), ("baseType", .object
    [("name", .str "Store"), ("implemented_interfaces",
      .array [.object [("name", .str "I")], repeatedEntry])])] _ _ (by decide) rfl hrepeated
  have htype : (snapshotOf [repeatedEntry]).Omits (snapshotOf []) :=
    @Document.Omits.type "types" _ [] _ _ [] (by decide) rfl hbase
  exact ⟨m, hm, (ofJson_drops_repeats hm).1 _ (.single htype), (ofJson_drops_repeats hm).2⟩

end Model

end ClassDiagram
