import ClassDiagram.Text.Dotted
import Mathlib.Data.List.Basic

/-!
# Splitting and joining dotted names

Splitting a name at its points is the inverse of joining parts without points.
-/

namespace ClassDiagram.Text

theorem dottedPieces_eq_splitOn (cs : List Char) : dottedPieces cs = cs.splitOn '.' := by
  induction cs with
  | nil => rfl
  | cons c cs ih =>
    rw [List.splitOn_eq_splitOnP] at ih ⊢
    rw [dottedPieces, List.splitOnP_cons_eq_if_modifyHead, ← ih]
    by_cases hc : c = '.'
    · simp [hc]
    · simp only [hc, ↓reduceIte, beq_iff_eq]
      obtain ⟨p, ps, hp⟩ := List.exists_cons_of_ne_nil (dottedPieces_ne_nil cs)
      simp [hp]

theorem dot_notMem_of_mem_dottedPieces {cs p : List Char} (h : p ∈ dottedPieces cs) : '.' ∉ p := by
  induction cs generalizing p with
  | nil => simp_all [dottedPieces]
  | cons c cs ih =>
    obtain ⟨q, qs, hq⟩ := List.exists_cons_of_ne_nil (dottedPieces_ne_nil cs)
    rw [hq] at ih
    by_cases hc : c = '.'
    · rw [dottedPieces, if_pos hc, hq] at h
      rcases List.mem_cons.1 h with rfl | h
      · exact List.not_mem_nil
      · exact ih h
    · simp only [dottedPieces, if_neg hc, hq] at h
      rcases List.mem_cons.1 h with rfl | h
      · simpa [Ne.symm hc] using ih List.mem_cons_self
      · exact ih (List.mem_cons_of_mem q h)

theorem dot_notMem_of_mem_dottedParts {s t : String} (h : s ∈ dottedParts t) :
    '.' ∉ s.toList := by
  obtain ⟨p, hp, rfl⟩ := List.mem_map.1 h
  simpa using dot_notMem_of_mem_dottedPieces hp

/-- Parts without points are the parts of the name that is joined from them. -/
theorem dottedParts_joinDots {parts : List String} (hne : parts ≠ [])
    (h : ∀ s ∈ parts, '.' ∉ s.toList) : dottedParts (joinDots parts) = parts := by
  have hsplit : dottedPieces (joinDots parts).toList = parts.map String.toList := by
    rw [dottedPieces_eq_splitOn, joinDots, String.toList_intercalate]
    exact List.splitOn_intercalate '.' (by simpa using h) (by simpa using hne)
  simp [dottedParts, hsplit]

end ClassDiagram.Text
