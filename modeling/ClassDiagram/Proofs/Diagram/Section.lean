import ClassDiagram.Proofs.Filter.Meet
import Mathlib.Data.List.Sort

/-!
# Sections of a diagram

Behind its heading, a diagram has four sections: interfaces, classes, enumerations and
relationships. Each of them is put together type by type, so that the sections of two models one
after the other are those of the one and then those of the other.

* `Model.append` lists the types of two models, `Model.grouped` those of one model by their kind;
* `Model.IsRearrangement` compares two models of which the types are the same up to an order that
  keeps the types of each kind as they are;
* `Model.lines_append` says what becomes of a diagram when types are put together, put into another
  order, or inserted.
-/

namespace ClassDiagram

/-- The lines of a listed type among the relationships: only a class has any. -/
def TypeSymbol.ownEdgeLines (p : Policy) (t : TypeSymbol) : List Line :=
  if t.kind = .classType then t.edgeLines p else []

namespace Model

/-- The types of a model, and then those of another one. -/
def append (m n : Model) : Model := ⟨m.types ++ n.types⟩

/-- The types of a model: the interfaces, then the classes, then the enumerations. -/
def grouped (m : Model) : Model := ⟨m.interfaces ++ m.classes ++ m.enums⟩

/-- The types of the second model are those of the first one, each at another place. Of two types of
one kind, the first one stays the first one. -/
def IsRearrangement (m n : Model) : Prop :=
  ∃ place : Fin m.types.length ≃ Fin n.types.length,
    (∀ i, n.types.get (place i) = m.types.get i) ∧
    ∀ i j, i < j → (m.types.get i).kind = (m.types.get j).kind → place i < place j

variable {m n : Model} {p : Policy}

/-! ### Sections -/

theorem lines_eq_sections (m : Model) (p : Policy) :
    m.lines p =
      heading :: (m.interfaceLines ++ m.classLines ++ m.enumLines ++ m.edgeLines p) := by
  rw [lines, declarations, List.cons_append]

theorem ofKind_append (m n : Model) (k : TypeKind) :
    (m.append n).ofKind k = m.ofKind k ++ n.ofKind k :=
  List.filter_append m.types n.types

@[simp]
theorem interfaceLines_append (m n : Model) :
    (m.append n).interfaceLines = m.interfaceLines ++ n.interfaceLines := by
  simp only [interfaceLines, interfaces, ofKind_append, List.flatMap_append]

@[simp]
theorem classLines_append (m n : Model) :
    (m.append n).classLines = m.classLines ++ n.classLines := by
  simp only [classLines, classes, ofKind_append, List.flatMap_append]

@[simp]
theorem enumLines_append (m n : Model) :
    (m.append n).enumLines = m.enumLines ++ n.enumLines := by
  simp only [enumLines, enums, ofKind_append, List.flatMap_append]

@[simp]
theorem edgeLines_append (m n : Model) (p : Policy) :
    (m.append n).edgeLines p = m.edgeLines p ++ n.edgeLines p := by
  simp only [edgeLines, classes, ofKind_append, List.flatMap_append]

/-! ### Order -/

/-- A diagram asks for the types of each kind and for nothing else. -/
theorem lines_eq_of_ofKind_eq (h : ∀ k, m.ofKind k = n.ofKind k) (p : Policy) :
    m.lines p = n.lines p := by
  simp only [lines, declarations, interfaceLines, classLines, enumLines, edgeLines, interfaces,
    classes, enums, h]

/-- The places of the types of one kind. -/
def placesOf (m : Model) (k : TypeKind) : List (Fin m.types.length) :=
  (List.finRange m.types.length).filter fun i => (m.types.get i).kind == k

theorem mem_placesOf {k : TypeKind} {i : Fin m.types.length} :
    i ∈ m.placesOf k ↔ (m.types.get i).kind = k := by
  simp [placesOf]

theorem pairwise_placesOf (m : Model) (k : TypeKind) : (m.placesOf k).Pairwise (· < ·) :=
  (List.sortedLT_finRange m.types.length).pairwise.filter _

theorem map_get_placesOf (m : Model) (k : TypeKind) :
    (m.placesOf k).map m.types.get = m.ofKind k := by
  have hfilter := List.filter_map (f := m.types.get) (p := (·.kind == k))
    (l := List.finRange m.types.length)
  rw [List.map_get_finRange] at hfilter
  exact hfilter.symm

theorem IsRearrangement.ofKind_eq (h : m.IsRearrangement n) (k : TypeKind) :
    m.ofKind k = n.ofKind k := by
  obtain ⟨place, htype, horder⟩ := h
  -- The places of one kind stay in order, so that they become the places of that kind in the other
  -- model, one by one.
  have hsorted : ((m.placesOf k).map place).Pairwise (· < ·) := by
    refine List.pairwise_map.2 ((m.pairwise_placesOf k).imp_of_mem fun {i j} hi hj hij => ?_)
    exact horder i j hij ((mem_placesOf.1 hi).trans (mem_placesOf.1 hj).symm)
  have hmem (j : Fin n.types.length) : j ∈ (m.placesOf k).map place ↔ j ∈ n.placesOf k := by
    obtain ⟨i, rfl⟩ := place.surjective j
    rw [List.mem_map_of_injective place.injective, mem_placesOf, mem_placesOf, htype]
  have hplaces : (m.placesOf k).map place = n.placesOf k :=
    hsorted.sortedLT.eq_of_mem_iff (n.pairwise_placesOf k).sortedLT hmem
  rw [← m.map_get_placesOf, ← n.map_get_placesOf, ← hplaces, List.map_map]
  exact List.map_congr_left fun i _ => (htype i).symm

theorem ofKind_ofKind (m : Model) (k l : TypeKind) :
    ofKind ⟨m.ofKind l⟩ k = if l = k then m.ofKind k else [] := by
  split_ifs with h
  · rw [h, ofKind, ofKind, List.filter_filter]
    simp only [Bool.and_self]
  · refine List.filter_eq_nil_iff.2 fun t ht => ?_
    have hl : t.kind = l := by simpa using (List.mem_filter.1 ht).2
    simpa [hl] using h

theorem ofKind_grouped (m : Model) (k : TypeKind) : m.grouped.ofKind k = m.ofKind k := by
  have hparts : m.grouped =
      append (append ⟨m.ofKind .interfaceType⟩ ⟨m.ofKind .classType⟩) ⟨m.ofKind .enumType⟩ := rfl
  rw [hparts, ofKind_append, ofKind_append, ofKind_ofKind, ofKind_ofKind, ofKind_ofKind]
  cases k <;> simp

/-! ### One type more -/

/-- The lines of the types of one kind, with one type more. -/
theorem flatMap_ofKind_insert (ts us : List TypeSymbol) (t : TypeSymbol) (k : TypeKind)
    (f : TypeSymbol → List Line) :
    (ofKind ⟨ts ++ t :: us⟩ k).flatMap f =
      (ofKind ⟨ts⟩ k).flatMap f ++ (if t.kind = k then f t else []) ++
        (ofKind ⟨us⟩ k).flatMap f := by
  by_cases hk : t.kind = k <;> simp [ofKind, hk]

/-- What a type adds to a diagram stands in one piece among the declarations, and in one piece among
the relationships. -/
theorem lines_insert (ts us : List TypeSymbol) (t : TypeSymbol) (p : Policy) :
    ∃ a b c d, declarations ⟨ts ++ us⟩ = a ++ b ∧ edgeLines ⟨ts ++ us⟩ p = c ++ d ∧
      lines ⟨ts ++ t :: us⟩ p = a ++ t.block ++ b ++ (c ++ t.ownEdgeLines p ++ d) := by
  have happend : (⟨ts ++ us⟩ : Model) = append ⟨ts⟩ ⟨us⟩ := rfl
  have hdeclarations : declarations ⟨ts ++ us⟩ = heading ::
      ((interfaceLines ⟨ts⟩ ++ interfaceLines ⟨us⟩) ++ (classLines ⟨ts⟩ ++ classLines ⟨us⟩) ++
        (enumLines ⟨ts⟩ ++ enumLines ⟨us⟩)) := by
    rw [happend, declarations, interfaceLines_append, classLines_append, enumLines_append]
  have hedges : edgeLines ⟨ts ++ us⟩ p = edgeLines ⟨ts⟩ p ++ edgeLines ⟨us⟩ p := by
    rw [happend, edgeLines_append]
  have hlines : lines ⟨ts ++ t :: us⟩ p = heading ::
      ((interfaceLines ⟨ts⟩ ++
          (if t.kind = .interfaceType then t.stereotypeBlock "interface" else []) ++
          interfaceLines ⟨us⟩) ++
        (classLines ⟨ts⟩ ++ (if t.kind = .classType then t.classBlock else []) ++
          classLines ⟨us⟩) ++
        (enumLines ⟨ts⟩ ++
          (if t.kind = .enumType then t.stereotypeBlock "enumeration" else []) ++
          enumLines ⟨us⟩)) ++
        (edgeLines ⟨ts⟩ p ++ t.ownEdgeLines p ++ edgeLines ⟨us⟩ p) := by
    simp only [lines, declarations, interfaceLines, classLines, enumLines, edgeLines, interfaces,
      classes, enums, flatMap_ofKind_insert, TypeSymbol.ownEdgeLines]
  rw [hdeclarations, hedges, hlines]
  -- The kind of the type says in which section its lines stand.
  cases hk : t.kind with
  | interfaceType =>
    refine ⟨heading :: interfaceLines ⟨ts⟩,
      interfaceLines ⟨us⟩ ++ (classLines ⟨ts⟩ ++ classLines ⟨us⟩) ++
        (enumLines ⟨ts⟩ ++ enumLines ⟨us⟩),
      edgeLines ⟨ts⟩ p, edgeLines ⟨us⟩ p, ?_, rfl, ?_⟩
    · simp
    · simp [TypeSymbol.block, hk]
  | classType =>
    refine ⟨heading :: (interfaceLines ⟨ts⟩ ++ interfaceLines ⟨us⟩ ++ classLines ⟨ts⟩),
      classLines ⟨us⟩ ++ (enumLines ⟨ts⟩ ++ enumLines ⟨us⟩),
      edgeLines ⟨ts⟩ p, edgeLines ⟨us⟩ p, ?_, rfl, ?_⟩
    · simp
    · simp [TypeSymbol.block, hk]
  | enumType =>
    refine ⟨heading :: (interfaceLines ⟨ts⟩ ++ interfaceLines ⟨us⟩ ++
        (classLines ⟨ts⟩ ++ classLines ⟨us⟩) ++ enumLines ⟨ts⟩), enumLines ⟨us⟩,
      edgeLines ⟨ts⟩ p, edgeLines ⟨us⟩ p, ?_, rfl, ?_⟩
    · simp
    · simp [TypeSymbol.block, hk]

/-- **A diagram is put together section by section and type by type.** Behind the heading stand the
interfaces, the classes, the enumerations and the relationships. For the types of two models one
after the other, each section is that of the first model and then that of the second one. So the
order of types matters within each kind only, and a type that is inserted anywhere adds its own
lines in one piece, and as a class its relationships in one piece, and changes nothing else. -/
theorem lines_append (p : Policy) :
    (∀ m : Model, m.lines p =
      heading :: (m.interfaceLines ++ m.classLines ++ m.enumLines ++ m.edgeLines p)) ∧
    (∀ m n : Model, (m.append n).lines p = heading ::
      ((m.interfaceLines ++ n.interfaceLines) ++ (m.classLines ++ n.classLines) ++
        (m.enumLines ++ n.enumLines) ++ (m.edgeLines p ++ n.edgeLines p))) ∧
    (∀ m n : Model, m.IsRearrangement n → m.render p = n.render p) ∧
    (∀ m : Model, m.grouped.render p = m.render p) ∧
    ∀ ts us t, ∃ a b c d, declarations ⟨ts ++ us⟩ = a ++ b ∧ edgeLines ⟨ts ++ us⟩ p = c ++ d ∧
      lines ⟨ts ++ t :: us⟩ p = a ++ t.block ++ b ++ (c ++ t.ownEdgeLines p ++ d) := by
  refine ⟨fun m => m.lines_eq_sections p, fun m n => ?_, fun m n h => ?_, fun m => ?_,
    fun ts us t => lines_insert ts us t p⟩
  · rw [lines_eq_sections, interfaceLines_append, classLines_append, enumLines_append,
      edgeLines_append]
  · rw [render, render, lines_eq_of_ofKind_eq h.ofKind_eq]
  · rw [render, render, lines_eq_of_ofKind_eq m.ofKind_grouped]

/-- Types of every kind, with classes before and behind the others. -/
def mixed : Model where
  types := [{ name := "Cart", base := some { name := "Basket" } },
    { name := "Color", kind := .enumType }, { name := "IShop", kind := .interfaceType },
    { name := "Shop", interfaces := [{ name := "IShop" }] }]

/-- The types in another order, in which the two classes still follow each other. -/
def reordered : Model where
  types := [{ name := "IShop", kind := .interfaceType },
    { name := "Cart", base := some { name := "Basket" } },
    { name := "Shop", interfaces := [{ name := "IShop" }] }, { name := "Color", kind := .enumType }]

/-- Where the types have gone. -/
def reordering : Fin 4 ≃ Fin 4 where
  toFun i := ([1, 3, 0, 2] : List (Fin 4)).get i
  invFun i := ([2, 0, 3, 1] : List (Fin 4)).get i
  left_inv i := by revert i; decide
  right_inv i := by revert i; decide

theorem mixed_isRearrangement_reordered : mixed.IsRearrangement reordered := by
  have htype : ∀ i : Fin 4, reordered.types.get (reordering i) = mixed.types.get i
    | 0 | 1 | 2 | 3 => rfl
  exact ⟨reordering, htype, by decide⟩

theorem lines_append_reordered :
    mixed.IsRearrangement reordered ∧ mixed.render .standard = reordered.render .standard :=
  ⟨mixed_isRearrangement_reordered,
    (lines_append .standard).2.2.1 mixed reordered mixed_isRearrangement_reordered⟩

end Model

end ClassDiagram
