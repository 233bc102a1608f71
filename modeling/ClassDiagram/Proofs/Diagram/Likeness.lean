import ClassDiagram.Proofs.Diagram.Block
import Mathlib.Data.List.Forall2

/-!
# Models that look alike

A diagram reads little of a model. Of a type it reads the kind and the name, and of a class also
the visible members and the types that it is directly related to. Of a member it reads what is shown
of it, and of a related type what a policy asks for.

* `Member.LooksLike`, `TypeSymbol.IsTargetLike`, `TypeSymbol.IsClassLike` and
  `TypeSymbol.IsEntryLike` compare members, related types, classes and listed types by that much;
* `Model.LooksLike` compares models;
* `Model.render_eq_of_looksLike` says that nothing else influences a diagram.
-/

namespace ClassDiagram

/-! ### Comparing symbols -/

/-- Two properties, or two methods, of which a diagram shows the same. -/
structure Member.LooksLike (a b : Member) : Prop where
  mark : a.visibility.mark = b.visibility.mark
  typeName : a.typeName = b.typeName
  name : a.name = b.name
  isStatic : a.isStatic = b.isStatic

/-- Two types that are the same as the end of a relationship. -/
structure TypeSymbol.IsTargetLike (t u : TypeSymbol) : Prop where
  name : t.name = u.name
  namespaceName : t.namespaceName = u.namespaceName
  origin : t.origin = u.origin
  special : t.special = u.special

/-- Two classes with the same visible members and relationships. -/
structure TypeSymbol.IsClassLike (t u : TypeSymbol) : Prop where
  properties : List.Forall₂ Member.LooksLike t.visibleProperties u.visibleProperties
  methods : List.Forall₂ Member.LooksLike t.visibleMethods u.visibleMethods
  interfaces : List.Forall₂ IsTargetLike t.interfaces u.interfaces
  base : Option.Rel IsTargetLike t.base u.base

/-- Two types that are the same where a model lists them. -/
structure TypeSymbol.IsEntryLike (t u : TypeSymbol) : Prop where
  kind : t.kind = u.kind
  name : t.name = u.name
  ofClass : t.kind = .classType → t.IsClassLike u

/-- Two models of which the same types are listed. -/
def Model.LooksLike (m n : Model) : Prop := List.Forall₂ TypeSymbol.IsEntryLike m.types n.types

/-! ### Members -/

theorem Member.LooksLike.view_eq {a b : Member} (h : a.LooksLike b) (hk : a.kind = b.kind) :
    a.view = b.view := by
  simp only [view, hk, h.mark, h.typeName, h.name, h.isStatic]

/-- Lists that are alike item by item have the same image. -/
theorem map_eq_map_of_forall₂ {α β : Type} {R : α → α → Prop} {f : α → β} {as bs : List α}
    (h : List.Forall₂ R as bs) (hf : ∀ a ∈ as, ∀ b ∈ bs, R a b → f a = f b) :
    as.map f = bs.map f := by
  induction h with
  | nil => rfl
  | cons hab _ ih =>
    have htail := ih fun a ha b hb => hf a (List.mem_cons_of_mem _ ha) b (List.mem_cons_of_mem _ hb)
    rw [List.map_cons, List.map_cons, htail,
      hf _ List.mem_cons_self _ List.mem_cons_self hab]

/-! ### Relationships -/

/-- Two relationships of one kind, between types that are the same for a diagram. -/
structure Edge.LooksLike (e f : Edge) : Prop where
  kind : e.kind = f.kind
  target : e.target.IsTargetLike f.target
  source : e.source = f.source

namespace Edge.LooksLike

variable {e f : Edge}

theorem view_eq (h : e.LooksLike f) : e.view = f.view := by
  simp only [view, h.kind, h.target.name, h.source]

/-- A policy asks for nothing that the two do not share. -/
theorem keeps_eq (h : e.LooksLike f) (p : Policy) : p.keeps e = p.keeps f := by
  have howned : p.isFrameworkOwned e.target = p.isFrameworkOwned f.target := by
    simp only [Policy.isFrameworkOwned, h.target.origin, h.target.namespaceName]
  have hi : p.admitsInterface e.target = p.admitsInterface f.target := by
    simp only [Policy.admitsInterface, Policy.isSpecialInterface, h.target.special, howned]
  have hb : p.admitsBase e.target = p.admitsBase f.target := by
    simp only [Policy.admitsBase, Policy.isSpecialBase, h.target.special, howned]
  simp only [Policy.keeps, h.kind, hi, hb]

end Edge.LooksLike

namespace TypeSymbol

variable {t u : TypeSymbol}

/-- The relationships of two such classes are alike one by one. -/
theorem IsClassLike.edges (h : t.IsClassLike u) (hn : t.name = u.name) :
    List.Forall₂ Edge.LooksLike t.edges u.edges := by
  have hbase : List.Forall₂ IsTargetLike t.base.toList u.base.toList := by
    have hb := h.base
    generalize t.base = b, u.base = c at hb
    cases hb with
    | none => exact .nil
    | some ht => exact .cons ht .nil
  have hi : List.Forall₂ Edge.LooksLike (t.interfaces.map (⟨.realization, ·, t.name⟩))
      (u.interfaces.map (⟨.realization, ·, u.name⟩)) :=
    List.rel_map (fun _ _ ht => ⟨rfl, ht, hn⟩) h.interfaces
  have hb : List.Forall₂ Edge.LooksLike (t.base.toList.map (⟨.generalization, ·, t.name⟩))
      (u.base.toList.map (⟨.generalization, ·, u.name⟩)) :=
    List.rel_map (fun _ _ ht => ⟨rfl, ht, hn⟩) hbase
  exact List.rel_append hi hb

/-- A policy keeps the same of the relationships of two such classes. -/
theorem IsClassLike.keptEdges_eq (h : t.IsClassLike u) (hn : t.name = u.name) (p : Policy) :
    (t.edges.filter p.keeps).map Edge.view = (u.edges.filter p.keeps).map Edge.view := by
  have hkept : List.Forall₂ Edge.LooksLike (t.edges.filter p.keeps) (u.edges.filter p.keeps) :=
    List.rel_filter (fun _ _ he => by simp only [he.keeps_eq p]) (h.edges hn)
  exact map_eq_map_of_forall₂ hkept fun _ _ _ _ he => he.view_eq

theorem kind_of_mem_visibleProperties {a : Member} (h : a ∈ t.visibleProperties) :
    a.kind = .property := by
  simp only [visibleProperties, Member.isProperty, List.mem_filter, Bool.and_eq_true,
    beq_iff_eq] at h
  exact h.2.2

theorem kind_of_mem_visibleMethods {a : Member} (h : a ∈ t.visibleMethods) : a.kind = .method := by
  simp only [visibleMethods, Member.isMethod, List.mem_filter, Bool.and_eq_true,
    beq_iff_eq] at h
  exact h.2.2

theorem IsClassLike.view_eq (h : t.IsClassLike u) (hn : t.name = u.name) : t.view = u.view := by
  have hp : t.visibleProperties.map Member.view = u.visibleProperties.map Member.view :=
    map_eq_map_of_forall₂ h.properties fun a ha b hb hab => hab.view_eq <| by
      rw [kind_of_mem_visibleProperties ha, kind_of_mem_visibleProperties hb]
  have hm : t.visibleMethods.map Member.view = u.visibleMethods.map Member.view :=
    map_eq_map_of_forall₂ h.methods fun a ha b hb hab => hab.view_eq <| by
      rw [kind_of_mem_visibleMethods ha, kind_of_mem_visibleMethods hb]
  rw [view, view, hn, hp, hm]

end TypeSymbol

/-! ### Models -/

namespace Model

variable {m n : Model}

/-- What two types of one kind share, whenever they are alike, the models share for that kind. -/
theorem LooksLike.map_ofKind_eq {β : Type} (h : m.LooksLike n) (k : TypeKind)
    {f : TypeSymbol → β} (hf : ∀ t u, t.kind = k → t.IsEntryLike u → f t = f u) :
    (m.ofKind k).map f = (n.ofKind k).map f := by
  have hkind : List.Forall₂ TypeSymbol.IsEntryLike (m.ofKind k) (n.ofKind k) :=
    List.rel_filter (fun _ _ ht => by simp only [ht.kind]) h
  refine map_eq_map_of_forall₂ hkind fun t ht u _ htu => hf t u ?_ htu
  simpa using (List.mem_filter.1 ht).2

theorem LooksLike.keptEdges_eq (h : m.LooksLike n) (p : Policy) :
    (m.keptEdges p).map Edge.view = (n.keptEdges p).map Edge.view := by
  have hclasses := h.map_ofKind_eq .classType
    (f := fun t => (t.edges.filter p.keeps).map Edge.view)
    fun t u hk htu => (htu.ofClass hk).keptEdges_eq htu.name p
  simp only [keptEdges, edges, classes, List.filter_flatMap, List.map_flatMap]
  rw [List.flatMap_def, List.flatMap_def, hclasses]

/-- **Nothing but what is compared influences a diagram.** Two models whose listed types agree in
kind and name, and whose classes agree in what is shown of the visible members and in what a policy
asks about the direct interfaces and the base, have the same diagram under every policy. -/
theorem render_eq_of_looksLike (h : m.LooksLike n) (p : Policy) : m.render p = n.render p := by
  have hi : m.interfaces.map (Block.ofInterface ·.name) =
      n.interfaces.map (Block.ofInterface ·.name) :=
    h.map_ofKind_eq .interfaceType fun t u _ htu => by rw [htu.name]
  have hc : m.classes.map (Block.ofClass ·.view) = n.classes.map (Block.ofClass ·.view) :=
    h.map_ofKind_eq .classType fun t u hk htu => by rw [(htu.ofClass hk).view_eq htu.name]
  have he : m.enums.map (Block.ofEnum ·.name) = n.enums.map (Block.ofEnum ·.name) :=
    h.map_ofKind_eq .enumType fun t u _ htu => by rw [htu.name]
  have hr : (m.keptEdges p).map (Block.ofEdge ·.view) =
      (n.keptEdges p).map (Block.ofEdge ·.view) := by
    simpa only [List.map_map, Function.comp_def] using
      congrArg (List.map Block.ofEdge) (h.keptEdges_eq p)
  rw [render, render, lines_eq_blocks, lines_eq_blocks, blocks, blocks, hi, hc, he, hr]

/-- A model with an interface that has members, and a class with a method before a property, hidden
members, and relationships to types that have much below them. -/
def detailed : Model where
  types := [
    { name := "IShape", kind := .interfaceType, namespaceName := "Geometry",
      members := [{ kind := .method, name := "area" }],
      interfaces := [{ name := "IBase" }] },
    { name := "Circle", namespaceName := "Geometry", special := some .object,
      members := [
        { kind := .method, name := "scale", typeName := "void",
          visibility := .protectedAndInternal, parameters := [⟨"factor", "double"⟩] },
        { kind := .method, name := "get_radius", isAccessor := true },
        { kind := .property, name := "radius", typeName := "double" }],
      interfaces := [{ name := "IShape", members := [{ kind := .method, name := "area" }] }],
      base := some { name := "Shape", base := some { name := "Object", special := some .object } } }]

/-- The model without what no diagram shows. -/
def outlined : Model where
  types := [
    { name := "IShape", kind := .interfaceType },
    { name := "Circle",
      members := [
        { kind := .property, name := "radius", typeName := "double" },
        { kind := .method, name := "scale", typeName := "void", visibility := .protectedAccess }],
      interfaces := [{ name := "IShape" }],
      base := some { name := "Shape" } }]

theorem detailed_looksLike_outlined : detailed.LooksLike outlined := by
  have hclass : (detailed.types[1]).IsClassLike outlined.types[1] :=
    { properties := .cons ⟨rfl, rfl, rfl, rfl⟩ .nil
      methods := .cons ⟨rfl, rfl, rfl, rfl⟩ .nil
      interfaces := .cons ⟨rfl, rfl, rfl, rfl⟩ .nil
      base := .some ⟨rfl, rfl, rfl, rfl⟩ }
  exact .cons ⟨rfl, rfl, fun hk => nomatch hk⟩ (.cons ⟨rfl, rfl, fun _ => hclass⟩ .nil)

theorem render_detailed_outlined :
    detailed.LooksLike outlined ∧ detailed.render .standard = outlined.render .standard :=
  ⟨detailed_looksLike_outlined, render_eq_of_looksLike detailed_looksLike_outlined .standard⟩

end Model

end ClassDiagram
