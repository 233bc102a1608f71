import ClassDiagram.Diagram.Render
import ClassDiagram.Load.Text
import ClassDiagram.Proofs.Check.Entry
import ClassDiagram.Proofs.Check.Exact
import Mathlib.Data.Set.Card

/-!
# Relationships counted in a snapshot

The relationships that a diagram shows of a class can be counted in the snapshot itself. Of the
interfaces of an entry, the first one of each namespace and name counts. If the policy does not
leave it out, it is a line, and the lines are in the order of those first ones.

* `firstsBy` keeps the first item of each key;
* `Policy.leavesOut` decides about an entry;
* `Entry.Accounts` says which lines an entry accounts for;
* `Model.edgeLines_of_entries` says that the entries of a snapshot account for the relationships of
  the types of its model, and that repeated interfaces change nothing.
-/

namespace ClassDiagram

/-! ### First items -/

section Firsts

variable {α β κ : Type} [DecidableEq κ]

/-- The first item of each key, in order. -/
def firstsBy (key : α → κ) : List α → List α
  | [] => []
  | a :: as => a :: (firstsBy key as).filter (key · ≠ key a)

variable {key : α → κ} {a : α} {as xs : List α}

theorem mem_firstsBy_iff : a ∈ firstsBy key as ↔ as.find? (key · = key a) = some a := by
  induction as with
  | nil => simp [firstsBy]
  | cons b as ih =>
    rw [firstsBy, List.mem_cons, List.mem_filter, ih]
    by_cases h : key b = key a
    · simp [h, eq_comm]
    · have hne : a ≠ b := fun hab => h (hab ▸ rfl)
      rw [List.find?_cons_of_neg (by simpa using h)]
      simp [hne, Ne.symm h]

theorem firstsBy_subset (key : α → κ) (as : List α) : firstsBy key as ⊆ as :=
  fun _ h => List.mem_of_find?_eq_some (mem_firstsBy_iff.1 h)

theorem nodup_map_firstsBy (key : α → κ) (as : List α) : ((firstsBy key as).map key).Nodup := by
  induction as with
  | nil => exact List.nodup_nil
  | cons a as ih =>
    rw [firstsBy, List.map_cons, List.nodup_cons]
    exact ⟨by simp, ih.sublist (List.filter_sublist.map key)⟩

theorem firstsBy_append (key : α → κ) (as bs : List α) :
    firstsBy key (as ++ bs) = firstsBy key as ++ (firstsBy key bs).filter (key · ∉ as.map key) := by
  induction as with
  | nil => simp [firstsBy]
  | cons a as ih => simp [firstsBy, ih, List.filter_filter]

/-- Items with keys that were met before make no difference. -/
theorem firstsBy_append_of_subset (h : xs.map key ⊆ as.map key) (bs : List α) :
    firstsBy key (as ++ xs ++ bs) = firstsBy key (as ++ bs) := by
  have hxs : (firstsBy key xs).filter (key · ∉ as.map key) = [] := by
    refine List.filter_eq_nil_iff.2 fun x hx => ?_
    simpa using h (List.mem_map_of_mem (firstsBy_subset key xs hx))
  have hmem (k : κ) : k ∈ (as ++ xs).map key ↔ k ∈ as.map key := by
    rw [List.map_append, List.mem_append]
    exact or_iff_left_of_imp fun hk => h hk
  rw [firstsBy_append, firstsBy_append key as, firstsBy_append key as, hxs, List.append_nil]
  simp only [hmem]

theorem forall₂_firstsBy {R : α → β → Prop} {key' : β → κ} {bs : List β}
    (hR : ∀ a b, R a b → key a = key' b) (h : List.Forall₂ R as bs) :
    List.Forall₂ R (firstsBy key as) (firstsBy key' bs) := by
  induction h with
  | nil => exact .nil
  | cons hab _ ih =>
    refine .cons hab (List.rel_filter (fun a b hr => ?_) ih)
    simp only [hR _ _ hab, hR _ _ hr]

end Firsts

theorem TypeSymbol.firstOccurrencesFrom_eq (seen : List (String × String))
    (ts : List TypeSymbol) :
    firstOccurrencesFrom seen ts = (firstsBy identity ts).filter (·.identity ∉ seen) := by
  fun_induction firstOccurrencesFrom seen ts with
  | case1 => rfl
  | case2 seen t ts ht ih =>
    rw [ih, firstsBy, List.filter_cons_of_neg (by simpa using ht), List.filter_filter]
    refine List.filter_congr fun u _ => ?_
    -- What is not in `seen` is another one than `t`, which is.
    have hne (hu : u.identity ∉ seen) : u.identity ≠ t.identity := fun h => hu (h ▸ ht)
    by_cases hu : u.identity ∈ seen <;> simp [hu, hne]
  | case3 seen t ts ht ih =>
    rw [ih, firstsBy, List.filter_cons_of_pos (by simpa using ht), List.filter_filter]
    congr 1
    refine List.filter_congr fun u _ => ?_
    simp [Bool.and_comm]

theorem TypeSymbol.firstOccurrences_eq (ts : List TypeSymbol) :
    firstOccurrences ts = firstsBy identity ts := by
  simp [firstOccurrences, firstOccurrencesFrom_eq]

/-! ### Lines of an entry -/

/-- The policy leaves out an edge to the type of an entry: by one of the tags that it leaves out in
such a place, by its origin, or by a rule for its namespace. -/
def Policy.leavesOut (p : Policy) (tags : List SpecialType) (w : Entry) : Bool :=
  tags.any (Enumeration.name · == w.tag) || w.origin == Enumeration.name Origin.framework ||
    p.frameworkRules.any (·.covers w.namespaceName)

namespace Entry

variable (p : Policy) (w : Entry)

/-- The interfaces that are shown: of those with one namespace and name the first one counts, and
it is shown unless the policy leaves it out. -/
def shownInterfaces : List Entry :=
  (firstsBy identity w.interfaces).filter (!p.leavesOut p.specialInterfaces ·)

/-- The lines of the interfaces. -/
def realizations : List Line :=
  (w.shownInterfaces p).map fun i => ⟨1, i.name ++ " <|.. " ++ w.name⟩

/-- The line of the base, unless there is none or the policy leaves it out. -/
def generalizations : List Line :=
  (w.base?.toList.filter (!p.leavesOut p.specialBases ·)).map fun b =>
    ⟨1, b.name ++ " <|-- " ++ w.name⟩

/-- The lines are what the entry accounts for: of a name, one for each namespace with a first
interface that is shown, in the order of those first interfaces, and then the base. -/
structure Accounts (ls : List Line) : Prop where
  count (n : String) : (ls.count ⟨1, n ++ " <|.. " ++ w.name⟩ : ℕ∞) =
    {ns | ∃ i, w.interfaces.find? (·.identity = (ns, n)) = some i ∧
      p.leavesOut p.specialInterfaces i = false}.encard
  order : ls = w.realizations p ++ w.generalizations p
  at_most_one : (w.generalizations p).length ≤ 1
  exactly_one_iff : (w.generalizations p).length = 1 ↔
    ∃ b, w.under? Keys.base = some b ∧ b ≠ .null ∧ p.leavesOut p.specialBases b = false

end Entry

/-! ### Counting -/

namespace Entry

variable {p : Policy} {w : Entry}

/-- The arrow tells the line of an interface from the line of a base. -/
theorem realization_ne_generalization (m n s : String) :
    (⟨1, m ++ " <|.. " ++ s⟩ : Line) ≠ ⟨1, n ++ " <|-- " ++ s⟩ := by
  intro h
  have harrow := congrArg String.toList ((String.append_left_inj s).1 (Line.mk.inj h).2)
  simp only [String.toList_append, String.reduceToList] at harrow
  exact absurd (List.append_inj_right' harrow rfl) (by decide)

theorem count_generalizations (n : String) :
    (w.generalizations p).count ⟨1, n ++ " <|.. " ++ w.name⟩ = 0 := by
  refine List.count_eq_zero.2 fun hmem => ?_
  obtain ⟨b, -, hb⟩ := List.mem_map.1 hmem
  exact realization_ne_generalization n b.name w.name hb.symm

/-- An interface is shown if it is the first one of its namespace and name, and not left out. -/
theorem mem_shownInterfaces_iff {i : Entry} {ns n : String} :
    i ∈ w.shownInterfaces p ∧ i.identity = (ns, n) ↔
      w.interfaces.find? (·.identity = (ns, n)) = some i ∧
        p.leavesOut p.specialInterfaces i = false := by
  rw [shownInterfaces, List.mem_filter, mem_firstsBy_iff, Bool.not_eq_true']
  constructor
  · rintro ⟨h, hi⟩
    rwa [hi] at h
  · intro h
    have hi : i.identity = (ns, n) := by simpa using List.find?_some h.1
    exact ⟨by rwa [hi], hi⟩

theorem nodup_shownInterfaces (p : Policy) (w : Entry) :
    ((w.shownInterfaces p).map identity).Nodup :=
  (nodup_map_firstsBy identity w.interfaces).sublist (List.filter_sublist.map identity)

theorem count_realizations (n : String) :
    (w.realizations p).count ⟨1, n ++ " <|.. " ++ w.name⟩ =
      ((w.shownInterfaces p).filter (·.name = n)).length := by
  rw [realizations, List.count_eq_countP, List.countP_map, List.countP_eq_length_filter]
  congr 2
  funext i
  rw [Bool.eq_iff_iff]
  simp

/-- Interfaces of one name that are shown stand in different namespaces, so that their namespaces
can be counted instead. -/
theorem length_filter_shownInterfaces (n : String) :
    (((w.shownInterfaces p).filter (·.name = n)).length : ℕ∞) =
      {ns | ∃ i, w.interfaces.find? (·.identity = (ns, n)) = some i ∧
        p.leavesOut p.specialInterfaces i = false}.encard := by
  set is := (w.shownInterfaces p).filter (·.name = n) with his
  have hname : ∀ i ∈ is, i.identity = (i.namespaceName, n) := by
    intro i hi
    have hn : i.name = n := by simpa using (List.mem_filter.1 hi).2
    rw [identity, hn]
  have hnodup : (is.map namespaceName).Nodup := by
    have hpairs : is.map identity = (is.map namespaceName).map (·, n) := by
      rw [List.map_map]
      exact List.map_congr_left hname
    refine .of_map (·, n) (hpairs ▸ ?_)
    exact (nodup_shownInterfaces p w).sublist (List.filter_sublist.map identity)
  have hset : {ns | ∃ i, w.interfaces.find? (·.identity = (ns, n)) = some i ∧
      p.leavesOut p.specialInterfaces i = false} = (is.map namespaceName).toFinset := by
    ext ns
    simp only [← mem_shownInterfaces_iff]
    simp [his, identity, and_assoc, and_left_comm, and_comm]
  rw [hset, Set.encard_coe_eq_coe_finsetCard, List.toFinset_card_of_nodup hnodup, List.length_map]

theorem length_generalizations_le_one : (w.generalizations p).length ≤ 1 := by
  rw [generalizations, List.length_map]
  refine (List.length_filter_le _ _).trans ?_
  cases w.base? <;> simp

theorem length_generalizations_eq_one_iff : (w.generalizations p).length = 1 ↔
    ∃ b, w.under? Keys.base = some b ∧ b ≠ .null ∧ p.leavesOut p.specialBases b = false := by
  simp only [← and_assoc, ← base?_eq_some_iff]
  rw [generalizations, List.length_map]
  cases w.base? with
  | none => simp
  | some b => cases hb : p.leavesOut p.specialBases b <;> simp [hb]

theorem accounts (p : Policy) (w : Entry) :
    w.Accounts p (w.realizations p ++ w.generalizations p) where
  count n := by
    rw [List.count_append, count_generalizations, Nat.add_zero, count_realizations,
      length_filter_shownInterfaces]
  order := rfl
  at_most_one := length_generalizations_le_one
  exactly_one_iff := length_generalizations_eq_one_iff

end Entry

/-! ### Types and their entries -/

theorem Edge.line_eq (e : Edge) :
    e.line = ⟨1, e.target.name ++ (" " ++ e.kind.arrow ++ " ") ++ e.source⟩ := by
  simp only [line, String.append_assoc]

theorem SpecialType.name_ne_empty (s : SpecialType) : Enumeration.name s ≠ "" := by
  cases s <;> decide

namespace Entry.Describes

open TypeSymbol

variable {w : Entry} {t : TypeSymbol}

theorem identity_eq (h : w.Describes t) : w.identity = t.identity := by
  rw [Entry.identity, TypeSymbol.identity, h.name_eq, h.namespaceName_eq]

theorem leavesOut_eq (h : w.Describes t) (p : Policy) (tags : List SpecialType) :
    p.leavesOut tags w = (t.special.any (tags.contains ·) || p.isFrameworkOwned t) := by
  have horigin : (w.origin == Enumeration.name Origin.framework) = (t.origin == .framework) := by
    rw [Bool.eq_iff_iff, beq_iff_eq, beq_iff_eq, h.isFramework_iff]
  have htag : tags.any (Enumeration.name · == w.tag) = t.special.any (tags.contains ·) := by
    rw [h.tag_eq, Bool.eq_iff_iff, List.any_eq_true]
    cases t.special with
    | none => simp [SpecialType.name_ne_empty]
    | some s =>
      simp only [Option.elim_some, beq_iff_eq, Option.any_some, List.contains_iff_mem]
      constructor
      · rintro ⟨tag, htag, hs⟩
        exact LawfulEnumeration.eq_of_name_eq _ _ hs ▸ htag
      · exact fun hs => ⟨s, hs, rfl⟩
  rw [Policy.leavesOut, horigin, htag, ← h.namespaceName_eq, Bool.or_assoc, Policy.isFrameworkOwned]

theorem admitsInterface_eq (h : w.Describes t) (p : Policy) :
    p.admitsInterface t = !p.leavesOut p.specialInterfaces w := by
  rw [h.leavesOut_eq]
  rfl

theorem admitsBase_eq (h : w.Describes t) (p : Policy) :
    p.admitsBase t = !p.leavesOut p.specialBases w := by
  rw [h.leavesOut_eq]
  rfl

theorem realizations_eq (h : w.Describes t) (p : Policy) :
    w.realizations p = (t.interfaces.filter p.admitsInterface).map fun i =>
      ⟨1, i.name ++ " <|.. " ++ t.name⟩ := by
  obtain ⟨is, his, hrel⟩ := h.interfaces_eq
  have hfirsts : List.Forall₂ (fun v i => ofJson v = .ok i) (firstsBy Entry.identity w.interfaces)
      (firstsBy TypeSymbol.identity is) :=
    forall₂_firstsBy (fun v i hvi => (describes_of_ofJson hvi).identity_eq) hrel
  rw [realizations, shownInterfaces, his, firstOccurrences_eq, ← List.forall₂_eq_eq_eq,
    List.forall₂_map_left_iff, List.forall₂_map_right_iff]
  refine (List.rel_filter (fun v i hvi => ?_) hfirsts).imp fun v i hvi => ?_
  · simp only [(describes_of_ofJson hvi).admitsInterface_eq]
  · rw [h.name_eq, (describes_of_ofJson hvi).name_eq]

theorem generalizations_eq (h : w.Describes t) (p : Policy) :
    w.generalizations p = (t.base.toList.filter p.admitsBase).map fun b =>
      ⟨1, b.name ++ " <|-- " ++ t.name⟩ := by
  rw [generalizations, h.name_eq]
  have hbase := h.base_eq
  generalize w.base? = v, t.base = b at hbase
  cases hbase with
  | none => rfl
  | some hvb =>
    have hb := describes_of_ofJson hvb
    rw [Option.toList_some, Option.toList_some, List.filter_singleton, List.filter_singleton,
      hb.admitsBase_eq]
    cases p.leavesOut p.specialBases _ <;> simp [hb.name_eq]

theorem edgeLines_eq (h : w.Describes t) (p : Policy) :
    t.edgeLines p = w.realizations p ++ w.generalizations p := by
  rw [h.realizations_eq, h.generalizations_eq, TypeSymbol.edgeLines, TypeSymbol.edges,
    List.filter_append, List.map_append, List.filter_map, List.filter_map, List.map_map,
    List.map_map]
  simp only [Function.comp_def, Edge.line_eq]
  rfl

end Entry.Describes

theorem Entry.accounts_of_ofJson {w : Entry} {t : TypeSymbol} (h : TypeSymbol.ofJson w = .ok t)
    (p : Policy) : t.name = w.name ∧ w.Accounts p (t.edgeLines p) := by
  have hw := TypeSymbol.describes_of_ofJson h
  exact ⟨hw.name_eq, hw.edgeLines_eq p ▸ w.accounts p⟩

/-! ### Models and their snapshots -/

namespace Model

open Checked Check

theorem forall₂_types_of_ofJson {v : Document} {m : Model} (h : ofJson v = .ok m) :
    List.Forall₂ (fun w t => TypeSymbol.ofJson w = .ok t) (v.itemsUnder Keys.types) m.types := by
  cases v with
  | object fields =>
    obtain ⟨types, htypes, rfl⟩ := map_eq_ok_iff.1 h
    exact itemsUnder_of_optional htypes
  | ready r => exact r.elim
  | _ => cases h

/-- **Relationships can be counted in a snapshot.** In a snapshot that is accepted, the entry of
each type accounts for its relationships. Of an interface name it has one line for each namespace
whose first interface of that name is not left out, in the order of those first interfaces, and
behind them one line for a base that is there and not left out. Interfaces whose namespace and name
were listed before never matter, whatever else they say: without them, or with other ones in their
place, the lines are the same. -/
theorem edgeLines_of_entries (p : Policy) :
    (∀ text m, Model.read text = .ok m → ∃ v, Json.Strict.read text = .ok v ∧
      List.Forall₂ (fun w t => t.name = Entry.name w ∧ Entry.Accounts p w (t.edgeLines p))
        (v.itemsUnder Keys.types) m.types) ∧
    ∀ (w w' : Entry) (t t' : TypeSymbol) (as xs ys bs : List Entry),
      TypeSymbol.ofJson w = .ok t → TypeSymbol.ofJson w' = .ok t' → w.name = w'.name →
      w.under? Keys.base = w'.under? Keys.base →
      w.interfaces = as ++ xs ++ bs → w'.interfaces = as ++ ys ++ bs →
      xs.map Entry.identity ⊆ as.map Entry.identity →
      ys.map Entry.identity ⊆ as.map Entry.identity → t.edgeLines p = t'.edgeLines p := by
  refine ⟨fun text m h => ?_, fun w w' t t' as xs ys bs ht ht' hname hbase hw hw' hxs hys => ?_⟩
  · obtain ⟨v, hv, hm⟩ := readAs_eq_ok_iff.1 h
    exact ⟨v, hv, (forall₂_types_of_ofJson hm).imp fun w t ht => Entry.accounts_of_ofJson ht p⟩
  · have hshown : w.shownInterfaces p = w'.shownInterfaces p := by
      rw [Entry.shownInterfaces, Entry.shownInterfaces, hw, hw', firstsBy_append_of_subset hxs,
        firstsBy_append_of_subset hys]
    rw [(TypeSymbol.describes_of_ofJson ht).edgeLines_eq,
      (TypeSymbol.describes_of_ofJson ht').edgeLines_eq]
    simp only [Entry.realizations, Entry.generalizations, Entry.base?, hname, hbase, hshown]

/-- A class that implements an interface of one name in two namespaces, and more interfaces. -/
def cartEntry (more : List Entry) : Entry :=
  .object [("name", .str "Cart"), ("implementedInterfaces", .array
    ([.object [("name", .str "I"), ("namespace", .str "Web")], .object [("name", .str "I")]] ++
      more))]

/-- The second interface again, but as one of the framework. -/
def repeatedEntry : Entry := .object [("name", .str "I"), ("origin", .str "framework")]

/-- The text of a snapshot of the class, in which the second interface is repeated. -/
def cartText : String :=
  "\x7b\"types\":[\x7b\"name\":\"Cart\",\"implementedInterfaces\":[" ++
    "\x7b\"name\":\"I\",\"namespace\":\"Web\"\x7d,\x7b\"name\":\"I\"\x7d," ++
    "\x7b\"name\":\"I\",\"origin\":\"framework\"\x7d]\x7d]\x7d"

theorem edgeLines_of_entries_cart :
    (∃ m v, Model.read cartText = .ok m ∧ Json.Strict.read cartText = .ok v ∧
      List.Forall₂ (fun w t => t.name = Entry.name w ∧
        Entry.Accounts .standard w (t.edgeLines .standard)) (v.itemsUnder Keys.types) m.types) ∧
    ∃ t t', TypeSymbol.ofJson (cartEntry [repeatedEntry]) = .ok t ∧
      TypeSymbol.ofJson (cartEntry []) = .ok t' ∧
      t.edgeLines .standard = t'.edgeLines .standard := by
  have hread : Json.Strict.read cartText =
      .ok (.object [("types", .array [cartEntry [repeatedEntry]])]) := by cbv
  obtain ⟨m, hm⟩ := exists_ok_iff.2 (List.isEmpty_iff.1 (by decide +kernel :
    (ofJson (.object [("types", .array [cartEntry [repeatedEntry]])])).problems.isEmpty = true))
  obtain ⟨t, ht⟩ := exists_ok_iff.2 (List.isEmpty_iff.1 (by decide +kernel :
    (TypeSymbol.ofJson (cartEntry [repeatedEntry])).problems.isEmpty = true))
  obtain ⟨t', ht'⟩ := exists_ok_iff.2 (List.isEmpty_iff.1 (by decide +kernel :
    (TypeSymbol.ofJson (cartEntry [])).problems.isEmpty = true))
  have hmodel : Model.read cartText = .ok m := readAs_eq_ok_iff.2 ⟨_, hread, hm⟩
  obtain ⟨v, hv, haccounts⟩ := (edgeLines_of_entries .standard).1 _ m hmodel
  refine ⟨⟨m, v, hmodel, hv, haccounts⟩, t, t', ht, ht', ?_⟩
  exact (edgeLines_of_entries .standard).2 _ _ t t' (cartEntry []).interfaces [repeatedEntry] [] []
    ht ht' (by decide +kernel) rfl rfl rfl (by decide +kernel) (List.nil_subset _)

/-- The interface of each namespace is shown once, and the one that is repeated is shown although
the framework owns the repetition. -/
example : (TypeSymbol.ofJson (cartEntry [repeatedEntry])).result?.map
    (fun t => (t.edgeLines .standard).map Line.text) = some ["I <|.. Cart", "I <|.. Cart"] := by
  decide +kernel

end Model

end ClassDiagram
