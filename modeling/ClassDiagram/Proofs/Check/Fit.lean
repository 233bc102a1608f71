import ClassDiagram.Proofs.Check.Exact
import ClassDiagram.Proofs.Check.Reading

/-!
# Documents that fit

A document fits a shape if nothing offends in it. Then whatever a path leads to fits as well.

* `Shape.Fits` says that nothing offends;
* `Shape.IsSymbolic` tells the shapes that the parts of symbols have;
* `Shape.Fits.of_leads` and `Shape.IsSymbolic.of_leads` follow a path.
-/

namespace ClassDiagram

/-- The records that are symbols. -/
def Record.symbols : List Record := [.parameter, .member, .type, .model]

theorem Field.map_value?_eq_first? (f : Field) (fields : List (String × Document)) :
    (f.value? fields).map Prod.snd = Json.first? fields f.keys := by
  rw [Field.value?, List.map_findSome?, Json.first?]
  simp [Function.comp_def]

/-- The shapes that the parts of symbols have. -/
def Shape.IsSymbolic : Shape → Prop
  | text => True
  | flag => True
  | choice _ => True
  | nullable s => s.IsSymbolic
  | record r => r ∈ Record.symbols
  | sequence (record r) => r ∈ Record.symbols
  | _ => False

theorem Record.isSymbolic_of_mem_fields :
    ∀ r ∈ symbols, ∀ f ∈ r.fields, f.shape.IsSymbolic := by
  simp [symbols, fields, Field.required, Field.optional, Shape.oneOf, Shape.IsSymbolic]

namespace Shape

variable {s t u : Shape} {v w x : Document} {p q : List Step} {r : Record}

theorem Leads.trans (h : s.Leads v p t w) (h' : t.Leads w q u x) : s.Leads v (p ++ q) u x := by
  induction h with
  | here => exact h'
  | nonnull hv _ ih => exact .nonnull hv (ih h')
  | item hs hv _ ih => exact .item hs hv (ih h')
  | field hf hv _ ih => exact .field hf hv (ih h')

/-- Nothing offends in the document. -/
def Fits (s : Shape) (v : Document) : Prop := ∀ p, ¬ s.Offends v p

namespace Fits

theorem of_leads (hv : s.Fits v) (h : s.Leads v p t w) : t.Fits w := by
  rintro _ (⟨h', hmisfit⟩ | ⟨h', hf, hr, hvalue⟩)
  · exact hv _ (.misfit (h.trans h') hmisfit)
  · exact hv _ (.missing (h.trans h') hf hr hvalue)

theorem exists_object (h : (record r).Fits v) : ∃ fields, v = .object fields := by
  by_contra hne
  exact h _ (.misfit .here (.record fun fields hv => hne ⟨fields, hv⟩))

theorem exists_array (h : (sequence t).Fits v) : ∃ vs, v = .array vs := by
  by_contra hne
  exact h _ (.misfit .here (.sequence fun vs hv => hne ⟨vs, hv⟩))

theorem nonnull (h : (nullable s).Fits v) (hv : v ≠ .null) : s.Fits v :=
  h.of_leads (.nonnull hv .here)

end Fits

theorem IsSymbolic.of_leads (hs : s.IsSymbolic) (h : s.Leads v p t w) : t.IsSymbolic := by
  induction h with
  | here => exact hs
  | nonnull _ _ ih => exact ih hs
  | @item s u _ _ _ _ _ _ hitem _ _ ih =>
    refine ih ?_
    cases s with
    | sequence item =>
      cases hitem
      cases u with
      | record r => exact hs
      | _ => exact hs.elim
    | list => exact hs.elim
    | _ => cases hitem
  | field hf _ _ ih => exact ih (Record.isSymbolic_of_mem_fields _ hs _ hf)

end Shape

end ClassDiagram
