import ClassDiagram.Filter.Rule
import ClassDiagram.Proofs.Text.Dotted

/-!
# What namespace rules cover

A rule covers the namespaces whose parts start with its segments. So rules are compared by their
segments: one subsumes another if its segments come first in those of the other one.

* `NamespaceRule.covers_iff` says what a rule covers;
* `NamespaceRule.Subsumes` compares two rules, `NamespaceRule.covers_joinDots_iff` relates it to
  what they cover.
-/

namespace ClassDiagram.NamespaceRule

variable {r s : NamespaceRule} {ns : String}

theorem ne_empty_of_mem_segments {a : String} (h : a ∈ r.segments) : a ≠ "" := by
  simpa using (List.mem_filter.1 h).2

theorem dot_notMem_of_mem_segments {a : String} (h : a ∈ r.segments) : '.' ∉ a.toList :=
  Text.dot_notMem_of_mem_dottedParts (List.mem_filter.1 h).1

/-- No rule covers the empty namespace: its only part is empty, and a segment never is. -/
theorem not_segments_prefix_empty (h : r.segments ≠ []) :
    ¬ r.segments <+: Text.dottedParts "" := by
  obtain ⟨a, as, ha⟩ := List.exists_cons_of_ne_nil h
  have hne : a ≠ "" := ne_empty_of_mem_segments (r := r) (by simp [ha])
  have hparts : Text.dottedParts "" = [""] := by decide
  rw [ha, hparts, List.cons_prefix_cons]
  exact fun h => hne h.1

theorem covers_iff : r.covers ns = true ↔ r.segments ≠ [] ∧ r.segments <+: Text.dottedParts ns := by
  simp only [covers, Bool.and_eq_true, decide_eq_true_eq, List.isPrefixOf_iff_prefix]
  constructor
  · rintro ⟨⟨hr, -⟩, hp⟩
    exact ⟨hr, hp⟩
  · rintro ⟨hr, hp⟩
    refine ⟨⟨hr, ?_⟩, hp⟩
    rintro rfl
    exact not_segments_prefix_empty hr hp

/-- The rule counts, and its segments come first in those of the other one. -/
def Subsumes (r s : NamespaceRule) : Prop := r.segments ≠ [] ∧ r.segments <+: s.segments

theorem Subsumes.covers (h : r.Subsumes s) (hs : s.covers ns = true) : r.covers ns = true :=
  covers_iff.2 ⟨h.1, h.2.trans (covers_iff.1 hs).2⟩

/-- The namespace that a rule spells without stray points is covered by the rules that subsume it,
and by no others. -/
theorem covers_joinDots_iff (hs : s.segments ≠ []) :
    r.covers (Text.joinDots s.segments) = true ↔ r.Subsumes s := by
  rw [covers_iff, Text.dottedParts_joinDots hs fun _ => dot_notMem_of_mem_segments, Subsumes]

end ClassDiagram.NamespaceRule
