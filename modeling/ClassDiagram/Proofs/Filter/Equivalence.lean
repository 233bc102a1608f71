import ClassDiagram.Proofs.Diagram.Block
import ClassDiagram.Proofs.Filter.Rule
import ClassDiagram.Symbol.Distinct
import Mathlib.Tactic.TFAE

/-!
# When two policies are the same

Two policies draw the same diagram of every model exactly if they name the same tags of base types
and the same tags of interfaces, and each rule of one that counts is subsumed by a rule of the other
one. Order and repetition, stray points and rules below a shorter rule do not matter; all else does.

* `Policy.Equivalent` is the comparison, `Policy.Equivalent.keeps_eq` what it implies for an edge;
* `Model.probe` is a model whose diagram shows whether one edge is kept;
* `Policy.equivalent_tfae` says that the diagrams of all models tell policies apart that are not
  equivalent, and only those.
-/

namespace ClassDiagram

namespace Policy

/-- Each rule of a list that counts is subsumed by a rule of another list. -/
def RulesSubsumed (rs ss : List NamespaceRule) : Prop :=
  ∀ r ∈ rs, r.segments ≠ [] → ∃ s ∈ ss, s.Subsumes r

/-- The policies name the same tags, and their rules subsume each other. -/
structure Equivalent (p q : Policy) : Prop where
  specialBases : ∀ s, s ∈ p.specialBases ↔ s ∈ q.specialBases
  specialInterfaces : ∀ s, s ∈ p.specialInterfaces ↔ s ∈ q.specialInterfaces
  rules : RulesSubsumed p.frameworkRules q.frameworkRules
  rules_symm : RulesSubsumed q.frameworkRules p.frameworkRules

/-! ### Equivalent policies -/

variable {p q : Policy}

theorem RulesSubsumed.any_covers {rs ss : List NamespaceRule} (h : RulesSubsumed rs ss)
    {ns : String} (hr : rs.any (·.covers ns) = true) : ss.any (·.covers ns) = true := by
  rw [List.any_eq_true] at hr ⊢
  obtain ⟨r, hr, hc⟩ := hr
  obtain ⟨s, hs, hsr⟩ := h r hr (NamespaceRule.covers_iff.1 hc).1
  exact ⟨s, hs, hsr.covers hc⟩

namespace Equivalent

theorem isFrameworkOwned_eq (h : p.Equivalent q) (t : TypeSymbol) :
    p.isFrameworkOwned t = q.isFrameworkOwned t := by
  rw [isFrameworkOwned, isFrameworkOwned, Bool.eq_iff_iff.2 ⟨h.rules.any_covers,
    h.rules_symm.any_covers⟩]

theorem admitsInterface_eq (h : p.Equivalent q) (t : TypeSymbol) :
    p.admitsInterface t = q.admitsInterface t := by
  have hs : p.isSpecialInterface t = q.isSpecialInterface t := by
    simp [isSpecialInterface, h.specialInterfaces]
  rw [admitsInterface, admitsInterface, hs, h.isFrameworkOwned_eq]

theorem admitsBase_eq (h : p.Equivalent q) (t : TypeSymbol) : p.admitsBase t = q.admitsBase t := by
  have hs : p.isSpecialBase t = q.isSpecialBase t := by
    simp [isSpecialBase, h.specialBases]
  rw [admitsBase, admitsBase, hs, h.isFrameworkOwned_eq]

theorem keeps_eq (h : p.Equivalent q) : p.keeps = q.keeps := by
  funext ⟨kind, target, source⟩
  cases kind with
  | realization => exact h.admitsInterface_eq target
  | generalization => exact h.admitsBase_eq target

theorem render_eq (h : p.Equivalent q) (m : Model) : m.render p = m.render q := by
  have hedges : m.edgeLines p = m.edgeLines q := by
    rw [Model.edgeLines_eq_map, Model.edgeLines_eq_map, Model.keptEdges, Model.keptEdges,
      h.keeps_eq]
  rw [Model.render, Model.render, Model.lines, Model.lines, hedges]

end Equivalent

end Policy

/-! ### Telling policies apart -/

namespace Model

/-- A model in which a class is related to a type, and there is nothing else. -/
def probe (k : EdgeKind) (t : TypeSymbol) : Model :=
  match k with
  | .realization => ⟨[{ name := "", interfaces := [t] }]⟩
  | .generalization => ⟨[{ name := "", base := some t }]⟩

theorem edges_probe (k : EdgeKind) (t : TypeSymbol) : (probe k t).edges = [⟨k, t, ""⟩] := by
  cases k <;> rfl

theorem interfacesDistinct_probe (k : EdgeKind) {t : TypeSymbol} (h : t.InterfacesDistinct) :
    ∀ u ∈ (probe k t).types, u.InterfacesDistinct := by
  cases k with
  | realization => simpa [probe] using .intro (by simp) (by simpa using h) (by simp)
  | generalization => simpa [probe] using .intro (by simp) (by simp) (by simpa using h)

/-- The diagram of a probe shows whether its edge is kept. -/
theorem keeps_eq_of_render_probe {p q : Policy} {k : EdgeKind} {t : TypeSymbol}
    (h : (probe k t).render p = (probe k t).render q) :
    p.keeps ⟨k, t, ""⟩ = q.keeps ⟨k, t, ""⟩ := by
  have hedges : ∀ r : Policy, ((probe k t).edgeLines r) =
      if r.keeps ⟨k, t, ""⟩ then [Edge.line ⟨k, t, ""⟩] else [] := by
    intro r
    rw [edgeLines_eq_map, keptEdges, edges_probe]
    cases hr : r.keeps ⟨k, t, ""⟩ <;> simp [hr]
  -- Whatever stands above is the same in both diagrams, so that one line more shows.
  have hline : ∀ l : Line, l.written.toList ≠ [] := by simp [Line.written]
  have ht := congrArg String.toList h
  simp only [render, lines, hedges, Line.writtenAll, List.map_append, String.join_append,
    String.toList_append, List.append_cancel_left_eq] at ht
  cases hp : p.keeps ⟨k, t, ""⟩ <;> cases hq : q.keeps ⟨k, t, ""⟩ <;> simp_all

end Model

namespace Policy

variable {p q : Policy}

/-- A type that no rule covers. -/
def tagged (s : SpecialType) : TypeSymbol := { name := "", special := some s }

/-- A type that only a rule can leave out. -/
def located (ns : String) : TypeSymbol := { name := "", namespaceName := ns }

theorem interfacesDistinct_tagged (s : SpecialType) : (tagged s).InterfacesDistinct :=
  .intro (by simp [tagged]) (by simp [tagged]) (by simp [tagged])

theorem interfacesDistinct_located (ns : String) : (located ns).InterfacesDistinct :=
  .intro (by simp [located]) (by simp [located]) (by simp [located])

theorem not_isFrameworkOwned_tagged (s : SpecialType) : p.isFrameworkOwned (tagged s) = false := by
  have hc : ∀ r ∈ p.frameworkRules, r.covers "" = false := by simp [NamespaceRule.covers]
  simpa [isFrameworkOwned, tagged] using hc

theorem admitsBase_tagged (s : SpecialType) :
    p.admitsBase (tagged s) = true ↔ s ∉ p.specialBases := by
  rw [admitsBase, not_isFrameworkOwned_tagged]
  simp [isSpecialBase, tagged]

theorem admitsInterface_tagged (s : SpecialType) :
    p.admitsInterface (tagged s) = true ↔ s ∉ p.specialInterfaces := by
  rw [admitsInterface, not_isFrameworkOwned_tagged]
  simp [isSpecialInterface, tagged]

theorem admitsInterface_located (ns : String) :
    p.admitsInterface (located ns) = true ↔ ∀ r ∈ p.frameworkRules, r.covers ns = false := by
  simp [admitsInterface, isSpecialInterface, isFrameworkOwned, located]

theorem rulesSubsumed_of_admitsInterface
    (h : ∀ ns, p.admitsInterface (located ns) = q.admitsInterface (located ns)) :
    RulesSubsumed p.frameworkRules q.frameworkRules := by
  intro r hr hne
  -- Otherwise `p` leaves out the namespace that `r` names, and `q` does not.
  by_contra hno
  push Not at hno
  have hq : q.admitsInterface (located (Text.joinDots r.segments)) = true := by
    rw [admitsInterface_located]
    intro s hs
    rw [← Bool.not_eq_true, NamespaceRule.covers_joinDots_iff hne]
    exact hno s hs
  rw [← h, admitsInterface_located] at hq
  have := (NamespaceRule.covers_joinDots_iff hne).2 ⟨hne, List.prefix_rfl⟩
  simp_all

/-- Policies that keep the same edges are equivalent. -/
theorem equivalent_of_admits
    (hb : ∀ s, p.admitsBase (tagged s) = q.admitsBase (tagged s))
    (hi : ∀ s, p.admitsInterface (tagged s) = q.admitsInterface (tagged s))
    (hn : ∀ ns, p.admitsInterface (located ns) = q.admitsInterface (located ns)) :
    p.Equivalent q where
  specialBases s := by rw [← not_iff_not, ← admitsBase_tagged, hb, admitsBase_tagged]
  specialInterfaces s := by
    rw [← not_iff_not, ← admitsInterface_tagged, hi, admitsInterface_tagged]
  rules := rulesSubsumed_of_admitsInterface hn
  rules_symm := rulesSubsumed_of_admitsInterface fun ns => (hn ns).symm

/-- **Diagrams tell policies apart exactly if they are not equivalent.** It makes no difference
whether all models are drawn or only those without repeated interfaces. -/
theorem equivalent_tfae (p q : Policy) : List.TFAE [
    p.Equivalent q,
    ∀ m : Model, m.render p = m.render q,
    ∀ m : Model, (∀ t ∈ m.types, t.InterfacesDistinct) → m.render p = m.render q] := by
  tfae_have 1 → 2 := by
    intro h m
    rw [Model.render, Model.render, Model.lines_eq_blocks, Model.lines_eq_blocks, Model.blocks,
      Model.blocks, Model.keptEdges, Model.keptEdges, h.keeps_eq]
  tfae_have 2 → 3 := fun h m _ => h m
  tfae_have 3 → 1 := by
    intro h
    have hkeeps : ∀ (k : EdgeKind) {t : TypeSymbol}, t.InterfacesDistinct →
        p.keeps ⟨k, t, ""⟩ = q.keeps ⟨k, t, ""⟩ := fun k t ht =>
      Model.keeps_eq_of_render_probe (h _ (Model.interfacesDistinct_probe k ht))
    exact equivalent_of_admits
      (fun s => hkeeps .generalization (interfacesDistinct_tagged s))
      (fun s => hkeeps .realization (interfacesDistinct_tagged s))
      (fun ns => hkeeps .realization (interfacesDistinct_located ns))
  tfae_finish

end Policy

end ClassDiagram
