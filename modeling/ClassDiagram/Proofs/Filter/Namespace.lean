import ClassDiagram.Proofs.Filter.Rule

/-!
# Namespace rules as beginnings of names

A rule compares segments, but it can be read on the names themselves: without its stray points, a
rule is a name, and it covers this name and every name that goes on with a point behind it.

* `NamespaceRule.spelling` is a rule without its stray points;
* `Text.prefix_dottedParts_iff` reads a prefix of the parts of a name as a beginning of the name;
* `NamespaceRule.covers_by_spelling` says what a rule covers, when it covers all that another one
  covers, and how two rules are related that cover one namespace.
-/

namespace ClassDiagram

/-! ### Parts at the beginning of a name -/

namespace Text

variable {s : String} {as bs : List String}

theorem dottedParts_ne_nil (s : String) : dottedParts s ≠ [] := by
  simpa [dottedParts] using dottedPieces_ne_nil s.toList

theorem joinDots_dottedParts (s : String) : joinDots (dottedParts s) = s := by
  rw [← String.toList_inj, joinDots, String.toList_intercalate, dottedParts, List.map_map]
  simp [Function.comp_def, dottedPieces_eq_splitOn]

theorem joinDots_append (has : as ≠ []) (hbs : bs ≠ []) :
    joinDots (as ++ bs) = joinDots as ++ "." ++ joinDots bs := by
  induction as with
  | nil => exact absurd rfl has
  | cons a as ih =>
    cases as with
    | nil =>
      obtain ⟨b, bs, rfl⟩ := List.exists_cons_of_ne_nil hbs
      simp [joinDots, String.intercalate_cons_cons, String.append_assoc]
    | cons a' as =>
      have ih := ih (List.cons_ne_nil a' as)
      simp only [joinDots, List.cons_append, String.intercalate_cons_cons] at ih ⊢
      rw [ih]
      simp only [String.append_assoc]

/-- Parts come first in a name if the name is them, or goes on with a point behind them. -/
theorem prefix_dottedParts_iff (hne : as ≠ []) (hdot : ∀ a ∈ as, '.' ∉ a.toList) :
    as <+: dottedParts s ↔ s = joinDots as ∨ ∃ rest, s = joinDots as ++ "." ++ rest := by
  constructor
  · rintro ⟨bs, hbs⟩
    have hs : s = joinDots (as ++ bs) := by rw [hbs, joinDots_dottedParts]
    rcases eq_or_ne bs [] with rfl | hbs
    · exact .inl (by rwa [List.append_nil] at hs)
    · exact .inr ⟨joinDots bs, by rwa [joinDots_append hne hbs] at hs⟩
  · rintro (rfl | ⟨rest, rfl⟩)
    · exact (dottedParts_joinDots hne hdot).symm ▸ List.prefix_rfl
    · -- The parts behind the point are those of the rest of the name.
      have hparts : ∀ a ∈ as ++ dottedParts rest, '.' ∉ a.toList := by
        intro a ha
        rcases List.mem_append.1 ha with ha | ha
        · exact hdot a ha
        · exact dot_notMem_of_mem_dottedParts ha
      have hjoin := joinDots_append hne (dottedParts_ne_nil rest)
      rw [joinDots_dottedParts] at hjoin
      rw [← hjoin, dottedParts_joinDots (List.append_ne_nil_of_left_ne_nil hne _) hparts]
      exact List.prefix_append as _

end Text

/-! ### Rules -/

namespace NamespaceRule

variable {r s : NamespaceRule} {ns : String}

/-- The rule without its stray points: the parts of its pattern that are not empty, with one point
between neighbours. -/
def spelling (r : NamespaceRule) : String :=
  String.ofList (['.'].intercalate ((r.pattern.toList.splitOn '.').filter (· ≠ [])))

theorem spelling_eq_joinDots (r : NamespaceRule) : r.spelling = Text.joinDots r.segments := by
  have hsegments : r.segments.map String.toList =
      (r.pattern.toList.splitOn '.').filter (· ≠ []) := by
    simp [segments, Text.dottedParts, List.filter_map, Function.comp_def,
      Text.dottedPieces_eq_splitOn]
  rw [spelling, ← hsegments, ← String.toList_inj, Text.joinDots, String.toList_intercalate]
  simp

theorem spelling_ne_empty_iff : r.spelling ≠ "" ↔ r.segments ≠ [] := by
  rw [spelling_eq_joinDots, not_iff_not]
  constructor
  · -- What is spelled by no character has one part only, and that one is empty.
    intro h
    by_contra hne
    have hparts := Text.dottedParts_joinDots hne fun _ => dot_notMem_of_mem_segments
    rw [h] at hparts
    exact not_segments_prefix_empty hne (hparts ▸ List.prefix_rfl)
  · intro h
    rw [h]
    rfl

/-- A rule that counts covers the name that it spells, and what goes on with a point behind it. -/
theorem covers_iff_spelling : r.covers ns = true ↔
    r.spelling ≠ "" ∧ (ns = r.spelling ∨ ∃ rest, ns = r.spelling ++ "." ++ rest) := by
  rw [covers_iff, spelling_ne_empty_iff, spelling_eq_joinDots]
  exact and_congr_right fun hne =>
    Text.prefix_dottedParts_iff hne fun _ => dot_notMem_of_mem_segments

/-- Only a rule that subsumes another one that counts covers everything that it covers. -/
theorem covers_subset_iff : (∀ ns, s.covers ns = true → r.covers ns = true) ↔
    s.segments = [] ∨ r.Subsumes s := by
  constructor
  · intro h
    by_cases hs : s.segments = []
    · exact .inl hs
    · have hself : s.covers (Text.joinDots s.segments) = true :=
        (covers_joinDots_iff hs).2 ⟨hs, List.prefix_rfl⟩
      exact .inr ((covers_joinDots_iff hs).1 (h _ hself))
  · rintro (hs | h) ns hc
    · exact absurd hs (covers_iff.1 hc).1
    · exact h.covers hc

/-- Rules that cover one namespace are beginnings of it, so that one goes on with the other. -/
theorem prefix_or_prefix_of_covers (hr : r.covers ns = true) (hs : s.covers ns = true) :
    r.segments <+: s.segments ∨ s.segments <+: r.segments :=
  List.prefix_or_prefix_of_prefix (covers_iff.1 hr).2 (covers_iff.1 hs).2

/-- **Rules are beginnings of dotted names.** A rule covers the name that it spells and the names
that go on with a point behind it, unless it spells none. So it covers all that another rule covers
exactly if the other one covers nothing or has its segments in front, and of two rules that cover
one namespace, the segments of one come first in the other. -/
theorem covers_by_spelling :
    (∀ (r : NamespaceRule) (ns : String), r.covers ns = true ↔
      r.spelling ≠ "" ∧ (ns = r.spelling ∨ ∃ rest, ns = r.spelling ++ "." ++ rest)) ∧
    (∀ r s : NamespaceRule, (∀ ns, s.covers ns = true → r.covers ns = true) ↔
      s.segments = [] ∨ (r.segments ≠ [] ∧ r.segments <+: s.segments)) ∧
    ∀ (r s : NamespaceRule) (ns : String), r.covers ns = true → s.covers ns = true →
      r.segments <+: s.segments ∨ s.segments <+: r.segments :=
  ⟨fun _ _ => covers_iff_spelling, fun _ _ => covers_subset_iff,
    fun _ _ _ => prefix_or_prefix_of_covers⟩

/-- Two rules for one namespace, each with stray points. -/
theorem covers_by_spelling_collections :
    let r : NamespaceRule := ⟨"System."⟩
    let s : NamespaceRule := ⟨".System..Collections"⟩
    r.covers "System.Collections.Generic" = true ∧ s.covers "System.Collections.Generic" = true ∧
      (r.segments <+: s.segments ∨ s.segments <+: r.segments) := by
  intro r s
  have hr : r.covers "System.Collections.Generic" = true := by decide +kernel
  have hs : s.covers "System.Collections.Generic" = true := by decide +kernel
  exact ⟨hr, hs, covers_by_spelling.2.2 r s _ hr hs⟩

/-- Stray points in a rule mean nothing, in a namespace they do. -/
example : (covers ⟨".System..IO."⟩ "System.IO.Pipes", covers ⟨"System"⟩ ".System",
    covers ⟨"System"⟩ "System.", covers ⟨"System"⟩ "SystemTools") = (true, false, true, false) := by
  decide +kernel

end NamespaceRule

end ClassDiagram
