import ClassDiagram.Proofs.Diagram.Block

/-!
# Combined policies

Two policies are combined by leaving out what either of them leaves out. A policy touches the
relationships of a diagram and nothing else, so that a combined policy keeps exactly the
relationships that both keep.

* `Policy.combine` combines policies, `Policy.unfiltered` leaves out what it has to;
* `Policy.keeps_combine` says which relationships a combined policy keeps;
* `TypeSymbol.block` are the lines of a listed type, which are in every diagram;
* `Model.lines_combine` sums up what a policy does to a diagram.
-/

namespace ClassDiagram

namespace Policy

/-- The policy that leaves out the tags of both policies, and what the rules of both cover. -/
def combine (p q : Policy) : Policy where
  specialBases := p.specialBases ∪ q.specialBases
  specialInterfaces := p.specialInterfaces ∪ q.specialInterfaces
  frameworkRules := p.frameworkRules ++ q.frameworkRules

/-- The policy without tags and rules. Types that come from the framework are left out all the
same. -/
def unfiltered : Policy where
  specialBases := []
  specialInterfaces := []
  frameworkRules := []

variable {p q : Policy} {e : Edge}

/-! ### What a combined policy keeps -/

theorem isFrameworkOwned_combine (p q : Policy) (t : TypeSymbol) :
    (p.combine q).isFrameworkOwned t = (p.isFrameworkOwned t || q.isFrameworkOwned t) := by
  simp only [isFrameworkOwned, combine, List.any_append]
  cases t.origin == .framework <;> simp

theorem any_contains_union {α : Type} [DecidableEq α] (as bs : List α) (a : Option α) :
    a.any ((as ∪ bs).contains ·) = (a.any (as.contains ·) || a.any (bs.contains ·)) := by
  cases a with
  | none => rfl
  | some a => simp

theorem admitsInterface_combine (p q : Policy) (t : TypeSymbol) :
    (p.combine q).admitsInterface t = (p.admitsInterface t && q.admitsInterface t) := by
  have hs : (p.combine q).isSpecialInterface t =
      (p.isSpecialInterface t || q.isSpecialInterface t) := any_contains_union _ _ _
  rw [admitsInterface, hs, isFrameworkOwned_combine, admitsInterface, admitsInterface,
    ← Bool.not_or]
  ac_rfl

theorem admitsBase_combine (p q : Policy) (t : TypeSymbol) :
    (p.combine q).admitsBase t = (p.admitsBase t && q.admitsBase t) := by
  have hs : (p.combine q).isSpecialBase t = (p.isSpecialBase t || q.isSpecialBase t) :=
    any_contains_union _ _ _
  rw [admitsBase, hs, isFrameworkOwned_combine, admitsBase, admitsBase, ← Bool.not_or]
  ac_rfl

/-- A combined policy keeps what both policies keep. -/
theorem keeps_combine (p q : Policy) (e : Edge) :
    (p.combine q).keeps e = (p.keeps e && q.keeps e) := by
  obtain ⟨kind, target, source⟩ := e
  cases kind with
  | realization => exact admitsInterface_combine p q target
  | generalization => exact admitsBase_combine p q target

/-! ### What a policy does not ask for -/

theorem isFrameworkOwned_eq_of_rules (h : p.frameworkRules = q.frameworkRules) (t : TypeSymbol) :
    p.isFrameworkOwned t = q.isFrameworkOwned t := by
  rw [isFrameworkOwned, isFrameworkOwned, h]

/-- The tags of base types do not matter for an interface. -/
theorem keeps_eq_of_realization (hs : ∀ s, s ∈ p.specialInterfaces ↔ s ∈ q.specialInterfaces)
    (hr : p.frameworkRules = q.frameworkRules) (he : e.kind = .realization) :
    p.keeps e = q.keeps e := by
  have hi : p.isSpecialInterface e.target = q.isSpecialInterface e.target := by
    simp [isSpecialInterface, hs]
  simp only [keeps, he, admitsInterface, hi, isFrameworkOwned_eq_of_rules hr]

/-- The tags of interfaces do not matter for a base type. -/
theorem keeps_eq_of_generalization (hs : ∀ s, s ∈ p.specialBases ↔ s ∈ q.specialBases)
    (hr : p.frameworkRules = q.frameworkRules) (he : e.kind = .generalization) :
    p.keeps e = q.keeps e := by
  have hb : p.isSpecialBase e.target = q.isSpecialBase e.target := by
    simp [isSpecialBase, hs]
  simp only [keeps, he, admitsBase, hb, isFrameworkOwned_eq_of_rules hr]

/-! ### What every policy leaves out -/

theorem isFrameworkOwned_of_origin {t : TypeSymbol} (h : t.origin = .framework) (p : Policy) :
    p.isFrameworkOwned t = true := by
  simp [isFrameworkOwned, h]

theorem origin_ne_of_keeps (h : p.keeps e = true) : e.target.origin ≠ .framework := by
  intro ho
  have howned := isFrameworkOwned_of_origin ho p
  cases hk : e.kind <;> simp [keeps, hk, admitsInterface, admitsBase, howned] at h

theorem keeps_unfiltered_iff : unfiltered.keeps e = true ↔ e.target.origin ≠ .framework := by
  refine ⟨origin_ne_of_keeps, fun ho => ?_⟩
  have howned : unfiltered.isFrameworkOwned e.target = false := by
    simp [isFrameworkOwned, unfiltered, ho]
  have hi : unfiltered.isSpecialInterface e.target = false := by
    simp [isSpecialInterface, unfiltered]
  have hb : unfiltered.isSpecialBase e.target = false := by
    simp [isSpecialBase, unfiltered]
  cases hk : e.kind <;> simp [keeps, hk, admitsInterface, admitsBase, howned, hi, hb]

end Policy

/-! ### Diagrams -/

/-- The lines of a listed type: all that a diagram says of it before the relationships. -/
def TypeSymbol.block (t : TypeSymbol) : List Line :=
  match t.kind with
  | .interfaceType => t.stereotypeBlock "interface"
  | .classType => t.classBlock
  | .enumType => t.stereotypeBlock "enumeration"

namespace Model

/-- The lines of the relationships of one kind that a policy keeps. -/
def linesOf (m : Model) (k : EdgeKind) (p : Policy) : List Line :=
  ((m.keptEdges p).filter (·.kind = k)).map Edge.line

variable (m : Model) {p q : Policy}

/-- The lines of a listed type follow each other in the part before the relationships. -/
theorem block_infix_declarations {t : TypeSymbol} (h : t ∈ m.types) :
    t.block <:+: m.declarations := by
  have hsection {f : TypeSymbol → List Line} (hf : t.block = f t) :
      t.block <:+: (m.ofKind t.kind).flatMap f := by
    have hmem : t ∈ m.ofKind t.kind := List.mem_filter.2 ⟨h, by simp⟩
    rw [hf]
    exact List.infix_of_mem_flatten (List.mem_map_of_mem hmem)
  have hblock : t.block <:+: m.interfaceLines ++ m.classLines ++ m.enumLines := by
    cases hk : t.kind with
    | interfaceType =>
      rw [hk] at hsection
      have hi : t.block <:+: m.interfaceLines := hsection (by rw [TypeSymbol.block, hk])
      rw [List.append_assoc]
      exact hi.trans (List.prefix_append _ _).isInfix
    | classType =>
      rw [hk] at hsection
      have hc : t.block <:+: m.classLines := hsection (by rw [TypeSymbol.block, hk])
      exact hc.trans (List.infix_append _ _ _)
    | enumType =>
      rw [hk] at hsection
      have he : t.block <:+: m.enumLines := hsection (by rw [TypeSymbol.block, hk])
      exact he.trans (List.suffix_append _ _).isInfix
  exact hblock.trans (List.suffix_cons _ _).isInfix

theorem lines_eq_append (r : Policy) :
    m.lines r = m.declarations ++ (m.keptEdges r).map Edge.line := by
  rw [lines, edgeLines_eq_map]

/-- Of what one policy keeps, a combined policy keeps what the other one keeps too. -/
theorem keptEdges_combine (p q : Policy) :
    m.keptEdges (p.combine q) = (m.keptEdges p).filter q.keeps := by
  rw [keptEdges, keptEdges, List.filter_filter]
  refine List.filter_congr fun e _ => ?_
  rw [Policy.keeps_combine, Bool.and_comm]

theorem keptEdges_combine_comm (p q : Policy) :
    m.keptEdges (p.combine q) = m.keptEdges (q.combine p) := by
  refine List.filter_congr fun e _ => ?_
  rw [Policy.keeps_combine, Policy.keeps_combine, Bool.and_comm]

/-- No policy keeps more than the one without tags and rules. -/
theorem keptEdges_sublist_unfiltered (p : Policy) :
    (m.keptEdges p).Sublist (m.keptEdges .unfiltered) :=
  List.monotone_filter_right _ fun _ he =>
    Policy.keeps_unfiltered_iff.2 (Policy.origin_ne_of_keeps he)

/-- Policies that judge the relationships of one kind alike show the same lines of that kind. -/
theorem linesOf_eq {k : EdgeKind} (h : ∀ e : Edge, e.kind = k → p.keeps e = q.keeps e) :
    m.linesOf k p = m.linesOf k q := by
  simp only [linesOf, keptEdges, List.filter_filter]
  refine congrArg _ (List.filter_congr fun e _ => ?_)
  by_cases hk : e.kind = k
  · rw [h e hk]
  · simp [hk]

/-- **Policies only leave out relationships, and they combine to what all of them keep.** The part
before the relationships holds the lines of every listed type and does not depend on the policy. A
combined policy keeps what both policies keep, in order. The tags of base types do not matter for
realizations, nor those of interfaces for generalizations. What comes from the framework is left out
always, and no policy shows a line that the one without tags and rules does not show. -/
theorem lines_combine (p q : Policy) :
    (∀ r : Policy, m.lines r = m.declarations ++ (m.edges.filter r.keeps).map Edge.line) ∧
    (∀ t ∈ m.types, t.block <:+: m.declarations) ∧
    (∀ e, (p.combine q).keeps e = true ↔ p.keeps e = true ∧ q.keeps e = true) ∧
    (m.keptEdges (p.combine q)).Sublist (m.keptEdges p) ∧
    (m.keptEdges (p.combine q)).Sublist (m.keptEdges q) ∧
    ((∀ s, s ∈ p.specialInterfaces ↔ s ∈ q.specialInterfaces) →
      p.frameworkRules = q.frameworkRules →
      m.linesOf .realization p = m.linesOf .realization q) ∧
    ((∀ s, s ∈ p.specialBases ↔ s ∈ q.specialBases) →
      p.frameworkRules = q.frameworkRules →
      m.linesOf .generalization p = m.linesOf .generalization q) ∧
    (∀ e ∈ m.keptEdges p, e.target.origin ≠ .framework) ∧
    (m.lines p).Sublist (m.lines .unfiltered) := by
  refine ⟨m.lines_eq_append, fun t => m.block_infix_declarations, fun e => ?_, ?_, ?_, ?_, ?_, ?_,
    ?_⟩
  · rw [Policy.keeps_combine, Bool.and_eq_true]
  · rw [keptEdges_combine]
    exact List.filter_sublist
  · rw [keptEdges_combine_comm, keptEdges_combine]
    exact List.filter_sublist
  · intro hs hr
    exact m.linesOf_eq fun e he => Policy.keeps_eq_of_realization hs hr he
  · intro hs hr
    exact m.linesOf_eq fun e he => Policy.keeps_eq_of_generalization hs hr he
  · intro e he
    exact Policy.origin_ne_of_keeps (List.mem_filter.1 he).2
  · rw [lines_eq_append, lines_eq_append]
    exact (m.keptEdges_sublist_unfiltered p).map Edge.line |>.append_left m.declarations

/-- A class that implements a part of the object model and an interface of the user, and extends a
type of the user. -/
def shop : Model where
  types := [
    { name := "Cart",
      interfaces := [{ name := "IDisposable", special := some .disposable }, { name := "IShop" }],
      base := some { name := "Basket" } }]

theorem lines_combine_shop :
    (∀ t ∈ shop.types, t.block <:+: shop.declarations) ∧
    shop.linesOf .realization .standard =
      shop.linesOf .realization { Policy.standard with specialBases := [] } ∧
    shop.linesOf .generalization .standard =
      shop.linesOf .generalization { Policy.standard with specialInterfaces := [] } ∧
    (⟨.realization, { name := "IShop" }, "Cart"⟩ : Edge) ∈ shop.keptEdges .standard ∧
    ({ name := "IShop" } : TypeSymbol).origin ≠ .framework := by
  have hbases := shop.lines_combine .standard { Policy.standard with specialBases := [] }
  have hinterfaces := shop.lines_combine .standard { Policy.standard with specialInterfaces := [] }
  obtain ⟨-, hblocks, -, -, -, hrealization, -, horigin, -⟩ := hbases
  obtain ⟨-, -, -, -, -, -, hgeneralization, -, -⟩ := hinterfaces
  have hkept : (⟨.realization, { name := "IShop" }, "Cart"⟩ : Edge) ∈ shop.keptEdges .standard :=
    List.mem_filter.2 ⟨List.mem_of_getElem? (i := 1) rfl, by decide⟩
  exact ⟨hblocks, hrealization (fun _ => Iff.rfl) rfl, hgeneralization (fun _ => Iff.rfl) rfl,
    hkept, horigin _ hkept⟩

end Model

end ClassDiagram
