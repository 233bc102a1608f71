import ClassDiagram.Proofs.Check.Schema
import Mathlib.Data.List.Forall2

/-!
# Checks find what offends, and nothing else

The checks of records list the places that offend the schema: all of them, no other ones, each
once, and in the order of the schema.

* `Shape.Exact` says that of a list of problems, `Field.Exact` says it of those of one field;
* there is one lemma for each check of a value, a sequence, a field and a record;
* `Model.checks_exactly` sums up what follows for a model.
-/

namespace ClassDiagram

/-! ### What offends in a value of a shape -/

/-- A field of an object offends: it is missing, or something in its value offends. -/
inductive Field.Offends (f : Field) (fields : List (String × Document)) : Problem Empty → Prop where
  | missing (hr : f.isRequired = true) (hv : f.value? fields = none) :
      f.Offends fields ⟨[.key f.name], .missing, .object fields⟩
  | inside {k v p} (hv : f.value? fields = some (k, v)) (h : f.shape.Offends v p) :
      f.Offends fields (p.under (.key k))

namespace Shape

variable {s t : Shape} {v w : Document} {path : List Step} {p : Problem Empty} {cause : Cause}

/-- The values of the shape are checked as wholes. -/
def IsSingle : Shape → Prop
  | text => True
  | flag => True
  | choice _ => True
  | _ => False

/-- If no path leads on from a value, only the value as a whole can offend. -/
theorem offends_iff_of_stop (hstop : ∀ path t w, s.Leads v path t w → path = [] ∧ t = s ∧ w = v)
    (hobject : ∀ r fields, s = .record r → v ≠ .object fields) :
    s.Offends v p ↔ ∃ cause, s.Misfit v cause ∧ p = ⟨[], cause, v⟩ := by
  constructor
  · rintro (⟨h, hw⟩ | ⟨h, -, -, -⟩)
    · obtain ⟨rfl, rfl, rfl⟩ := hstop _ _ _ h
      exact ⟨_, hw, rfl⟩
    · obtain ⟨-, ht, hw⟩ := hstop _ _ _ h
      exact absurd hw.symm (hobject _ _ ht.symm)
  · rintro ⟨cause, h, rfl⟩
    exact .misfit .here h

theorem offends_single (hs : s.IsSingle) :
    s.Offends v p ↔ ∃ cause, s.Misfit v cause ∧ p = ⟨[], cause, v⟩ := by
  refine offends_iff_of_stop (fun path t w h => ?_) (fun r fields hr => by simp_all [IsSingle])
  cases h with
  | here => exact ⟨rfl, rfl, rfl⟩
  | nonnull => exact hs.elim
  | item hi => cases s <;> simp_all [item?, IsSingle]
  | field => exact hs.elim

theorem Misfit.cause_eq {other : Cause} (h : s.Misfit v cause) (h' : s.Misfit v other) :
    cause = other := by
  cases h <;> cases h' <;> simp_all [word?]

/-- Of a value that is nothing of its shape, no part counts. -/
theorem Misfit.offends_iff (hm : s.Misfit v cause) : s.Offends v p ↔ p = ⟨[], cause, v⟩ := by
  have hstop : ∀ path t w, s.Leads v path t w → path = [] ∧ t = s ∧ w = v := by
    intro path t w h
    cases h with
    | here => exact ⟨rfl, rfl, rfl⟩
    | nonnull => cases hm
    | item hi => cases hm <;> simp_all [item?]
    | field => cases hm; simp_all
  have hobject : ∀ r fields, s = .record r → v ≠ .object fields := by
    rintro r fields rfl
    cases hm with
    | record h => exact h fields
  rw [offends_iff_of_stop hstop hobject]
  constructor
  · rintro ⟨other, ho, rfl⟩
    rw [hm.cause_eq ho]
  · rintro rfl
    exact ⟨cause, hm, rfl⟩

theorem offends_nullable : (nullable s).Offends v p ↔ v ≠ .null ∧ s.Offends v p := by
  constructor
  · rintro (⟨h, hw⟩ | ⟨h, hf, hr, hv⟩)
    · cases h with
      | here => cases hw
      | nonnull hv h => exact ⟨hv, .misfit h hw⟩
      | item hi => simp [item?] at hi
    · cases h with
      | nonnull hn h => exact ⟨hn, .missing h hf hr hv⟩
      | item hi => simp [item?] at hi
  · rintro ⟨hn, ⟨h, hw⟩ | ⟨h, hf, hr, hv⟩⟩
    · exact .misfit (.nonnull hn h) hw
    · exact .missing (.nonnull hn h) hf hr hv

theorem offends_array {vs : List Document} (hs : s.item? = some t) :
    s.Offends (.array vs) p ↔
      ∃ i v q, vs[i]? = some v ∧ t.Offends v q ∧ p = q.under (.index i) := by
  constructor
  · rintro (⟨h, hw⟩ | ⟨h, hf, hr, hm⟩)
    · cases h with
      | here => cases hw <;> simp_all [item?]
      | nonnull => simp [item?] at hs
      | item hi hv h =>
        cases hs.symm.trans hi
        exact ⟨_, _, _, hv, .misfit h hw, rfl⟩
    · cases h with
      | nonnull => simp [item?] at hs
      | item hi hv h =>
        cases hs.symm.trans hi
        exact ⟨_, _, _, hv, .missing h hf hr hm, rfl⟩
  · rintro ⟨i, v, _, hv, ⟨h, hw⟩ | ⟨h, hf, hr, hm⟩, rfl⟩
    · exact .misfit (.item hs hv h) hw
    · exact .missing (.item hs hv h) hf hr hm

theorem offends_object {r : Record} {fields : List (String × Document)} :
    (record r).Offends (.object fields) p ↔ ∃ f ∈ r.fields, f.Offends fields p := by
  constructor
  · rintro (⟨h, hw⟩ | ⟨h, hf, hr, hm⟩)
    · cases h with
      | here => cases hw; simp_all
      | field hg hv h => exact ⟨_, hg, .inside hv (.misfit h hw)⟩
    · cases h with
      | here => exact ⟨_, hf, .missing hr hm⟩
      | field hg hv h => exact ⟨_, hg, .inside hv (.missing h hf hr hm)⟩
  · rintro ⟨f, hf, ⟨hr, hm⟩ | ⟨hv, ⟨h, hw⟩ | ⟨h, hg, hr, hm⟩⟩⟩
    · exact .missing .here hf hr hm
    · exact .misfit (.field hf hv h) hw
    · exact .missing (.field hf hv h) hg hr hm

/-! ### Exact lists of problems -/

/-- The problems are what offends in a value of the shape, in order. -/
structure Exact (s : Shape) (v : Document) (ps : List (Problem Empty)) : Prop where
  mem_iff : ∀ p, p ∈ ps ↔ s.Offends v p
  ordered : ps.Pairwise fun p q => s.Before p.path q.path

theorem Exact.of_misfit (h : s.Misfit v cause) : s.Exact v [⟨[], cause, v⟩] where
  mem_iff p := by simp [h.offends_iff]
  ordered := List.pairwise_singleton _ _

theorem Exact.nil (h : ∀ p, ¬ s.Offends v p) : s.Exact v [] where
  mem_iff p := by simp [h p]
  ordered := .nil

theorem Exact.of_single (hs : s.IsSingle) (h : ∀ cause, ¬ s.Misfit v cause) : s.Exact v [] :=
  .nil fun p hp => by
    obtain ⟨cause, hc, -⟩ := (offends_single hs).1 hp
    exact h cause hc

theorem Exact.of_nonnull {ps : List (Problem Empty)} (hv : v ≠ .null) (h : s.Exact v ps) :
    (nullable s).Exact v ps where
  mem_iff p := by rw [h.mem_iff, offends_nullable, and_iff_right hv]
  ordered := h.ordered.imp .nonnull

end Shape

/-- The problems are what offends in a field of an object, in order. -/
structure Field.Exact (f : Field) (fields : List (String × Document))
    (ps : List (Problem Empty)) : Prop where
  mem_iff : ∀ p, p ∈ ps ↔ f.Offends fields p
  ordered : ∀ r, f ∈ Record.fields r → ps.Pairwise fun p q => (Shape.record r).Before p.path q.path

namespace Field

variable {f : Field} {fields : List (String × Document)} {ps : List (Problem Empty)}

theorem Exact.of_value {k : String} {v : Document} (hv : f.value? fields = some (k, v))
    (h : f.shape.Exact v ps) : f.Exact fields (ps.map (.under (.key k))) where
  mem_iff p := by
    rw [List.mem_map]
    constructor
    · rintro ⟨q, hq, rfl⟩
      exact .inside hv ((h.mem_iff q).1 hq)
    · rintro (⟨-, hm⟩ | ⟨hw, hq⟩)
      · simp [hm] at hv
      · cases hv.symm.trans hw
        exact ⟨_, (h.mem_iff _).2 hq, rfl⟩
  ordered r hf := by
    rw [List.pairwise_map]
    exact h.ordered.imp (.field hf (mem_keys_of_value? hv).1)

theorem Exact.of_missing (hr : f.isRequired = true) (hv : f.value? fields = none) :
    f.Exact fields [⟨[.key f.name], .missing, .object fields⟩] where
  mem_iff p := by
    rw [List.mem_singleton]
    constructor
    · rintro rfl
      exact .missing hr hv
    · rintro (- | ⟨hw, -⟩)
      · rfl
      · simp [hv] at hw
  ordered _ _ := List.pairwise_singleton _ _

theorem Exact.of_absent (hr : f.isRequired = false) (hv : f.value? fields = none) :
    f.Exact fields [] where
  mem_iff p := by
    simp only [List.not_mem_nil, false_iff]
    rintro (⟨hr', -⟩ | ⟨hw, -⟩)
    · simp [hr] at hr'
    · simp [hv] at hw
  ordered _ _ := .nil

theorem Offends.path_eq {r : Record} {p : Problem Empty} (h : f.Offends fields p)
    (hf : f ∈ r.fields) : ∃ k ∈ f.keys, ∃ path, p.path = .key k :: path := by
  cases h with
  | missing => exact ⟨_, r.name_mem_keys f hf, _, rfl⟩
  | inside hv => exact ⟨_, (mem_keys_of_value? hv).1, _, rfl⟩

variable {fs : List Field} {pss : List (List (Problem Empty))}

theorem mem_flatten_of_exact (h : List.Forall₂ (fun f => f.Exact fields) fs pss)
    (p : Problem Empty) : p ∈ pss.flatten ↔ ∃ f ∈ fs, f.Offends fields p := by
  induction h with
  | nil => simp
  | cons hf _ ih => simp [ih, hf.mem_iff]

theorem pairwise_flatten_of_exact {r : Record} (h : List.Forall₂ (fun f => f.Exact fields) fs pss)
    (hr : fs.Sublist r.fields) :
    pss.flatten.Pairwise fun p q => (Shape.record r).Before p.path q.path := by
  induction h with
  | nil => exact .nil
  | @cons f ps fs pss hf hfs ih =>
    rw [List.flatten_cons, List.pairwise_append]
    -- All problems of the first field come first, and it is declared before the other ones.
    have hmem := hr.subset List.mem_cons_self
    refine ⟨hf.ordered r hmem, ih ((List.sublist_cons_self f fs).trans hr), fun p hp q hq => ?_⟩
    obtain ⟨g, hg, hq⟩ := (mem_flatten_of_exact hfs q).1 hq
    obtain ⟨k, hk, path, hp⟩ := ((hf.mem_iff p).1 hp).path_eq hmem
    obtain ⟨l, hl, path', hq⟩ := hq.path_eq (hr.subset (List.mem_cons_of_mem f hg))
    rw [hp, hq]
    exact .declared (((List.singleton_sublist.2 hg).cons_cons f).trans hr) hk hl

end Field

namespace Shape

/-- If the problems of every field of a record are exact, so are those of the record. -/
theorem Exact.of_fields {r : Record} {fields : List (String × Document)}
    {pss : List (List (Problem Empty))}
    (h : List.Forall₂ (fun f => f.Exact fields) r.fields pss) :
    (record r).Exact (.object fields) pss.flatten where
  mem_iff p := by rw [Field.mem_flatten_of_exact h, offends_object]
  ordered := Field.pairwise_flatten_of_exact h (.refl _)

end Shape

/-! ### Checks of parts -/

namespace Checked

variable {ε δ α : Type}

theorem problems_mapProblems (f : ε → δ) (x : Checked ε α) :
    (x.mapProblems f).problems = x.problems.map f := by
  cases x <;> rfl

theorem exists_ok_iff {x : Checked ε α} : (∃ a, x = .ok a) ↔ x.problems = [] := by
  cases x <;> simp [problems]

end Checked

theorem Enumeration.mem_names_iff {α : Type} [Enumeration α] {s : String} :
    s ∈ names α ↔ ∃ a, ofName? α s = some a := by
  simp [names, ofName?, ← Option.isSome_iff_exists]

namespace Check

open Checked Shape

variable {α : Type} {v : Document}

theorem exact_text (v : Document) : Shape.text.Exact v (text v).problems := by
  cases v with
  | str s => exact .of_single trivial (by rintro _ ⟨h⟩; exact h s rfl)
  | ready r => exact r.elim
  | _ => exact .of_misfit (.text (by simp))

theorem exact_flagOfInt {n : Int} (hb : ∀ b, v ≠ .bool b) (hs : ∀ s, v ≠ .str s)
    (hn : word? v = if isWord n then some n else none) :
    Shape.flag.Exact v (flagOfInt n v).problems := by
  -- Of the numbers that fit, only 0 and 1 are no misfits.
  have hclear (h : isWord n = true) (h01 : n = 0 ∨ n = 1) : Shape.flag.Exact v [] := by
    refine .of_single trivial fun cause hc => ?_
    cases hc <;> simp_all
  unfold flagOfInt
  split_ifs with h0 h1 hw
  · exact hclear (by simp [h0, isWord, leastWord]) (.inl h0)
  · exact hclear (by simp [h1, isWord, leastWord]) (.inr h1)
  · exact .of_misfit (.number (by rw [hn, if_pos hw]) h0 h1)
  · exact .of_misfit (.flag hb hs (by rw [hn, if_neg hw]))

theorem exact_flag (v : Document) : Shape.flag.Exact v (flag v).problems := by
  cases v with
  | null => exact .of_misfit (.flag (by simp) (by simp) rfl)
  | bool b => exact .of_single trivial fun cause hc => by cases hc <;> simp_all [word?]
  | int n => exact exact_flagOfInt (by simp) (by simp) rfl
  | float x =>
    have hword : word? (.float x) = x.toInt?.filter isFloatWord := rfl
    cases hx : x.toInt? with
    | none =>
      simp only [flag, hx]
      exact .of_misfit (.flag (by simp) (by simp) (by simp [hword, hx]))
    | some n =>
      simp only [flag, hx]
      split_ifs with hw
      · have hfits : isWord n = true := (Bool.and_eq_true_iff.1 hw).1
        exact exact_flagOfInt (by simp) (by simp) (by simp [hword, hx, Option.filter, hw, hfits])
      · exact .of_misfit (.flag (by simp) (by simp) (by simp [hword, hx, Option.filter, hw]))
  | str s =>
    simp only [flag]
    split_ifs with ht hf
    · exact .of_single trivial fun cause hc => by cases hc <;> simp_all [word?]
    · exact .of_single trivial fun cause hc => by cases hc <;> simp_all [word?]
    · exact .of_misfit (.word (by simp [ht, hf]))
  | array vs => exact .of_misfit (.flag (by simp) (by simp) rfl)
  | object fields => exact .of_misfit (.flag (by simp) (by simp) rfl)
  | ready r => exact r.elim

theorem exact_choice (α : Type) [Enumeration α] (v : Document) :
    (oneOf α).Exact v (choice α v).problems := by
  cases v with
  | str s =>
    cases h : Enumeration.ofName? α s with
    | some a =>
      simp only [choice, h]
      refine .of_single trivial fun cause hc => ?_
      cases hc with
      | choice hno => exact hno s (Enumeration.mem_names_iff.2 ⟨a, h⟩) rfl
    | none =>
      simp only [choice, h]
      refine .of_misfit (.choice fun t ht hst => ?_)
      cases hst
      obtain ⟨a, ha⟩ := Enumeration.mem_names_iff.1 ht
      simp [ha] at h
  | ready r => exact r.elim
  | _ => exact .of_misfit (.choice (by simp))

theorem exact_nullable {s : Shape} {r : Result Empty α} (h : s.Exact v r.problems) :
    (Shape.nullable s).Exact v (nullable v r).problems := by
  cases v with
  | null => exact .nil fun p hp => (offends_nullable.1 hp).1 rfl
  | ready r => exact r.elim
  | _ =>
    simp only [nullable, problems_map]
    exact h.of_nonnull (by simp)

/-! ### Checks of sequences -/

section Items

variable {s t : Shape} {vs : List Document} {i : Nat}
  {check : (w : Document) → w ∈ vs → Result Empty α}

theorem mem_problems_itemsFrom (h : ∀ w hw, t.Exact w (check w hw).problems) (p : Problem Empty) :
    p ∈ (itemsFrom i vs check).problems ↔
      ∃ j w q, vs[j]? = some w ∧ t.Offends w q ∧ p = q.under (.index (i + j)) := by
  induction vs generalizing i with
  | nil => simp [itemsFrom, pure, problems]
  | cons v vs ih =>
    rw [itemsFrom, problems_seq, problems_map, under, problems_mapProblems, List.mem_append,
      List.mem_map, ih fun w hw => h w _]
    -- Item 0 is the first one, and item `j + 1` is item `j` of the rest, which starts at `i + 1`.
    constructor
    · rintro (⟨q, hq, rfl⟩ | ⟨j, w, q, hw, hq, rfl⟩)
      · exact ⟨0, v, q, rfl, ((h v _).mem_iff q).1 hq, rfl⟩
      · exact ⟨j + 1, w, q, hw, hq, by rw [Nat.add_right_comm, Nat.add_assoc]⟩
    · rintro ⟨j, w, q, hw, hq, rfl⟩
      cases j with
      | zero =>
        cases hw
        exact .inl ⟨q, ((h v _).mem_iff q).2 hq, rfl⟩
      | succ j => exact .inr ⟨j, w, q, hw, hq, by rw [Nat.add_right_comm, Nat.add_assoc]⟩

theorem pairwise_problems_itemsFrom (hs : s.item? = some t)
    (h : ∀ w hw, t.Exact w (check w hw).problems) :
    (itemsFrom i vs check).problems.Pairwise fun p q => s.Before p.path q.path := by
  induction vs generalizing i with
  | nil => exact .nil
  | cons v vs ih =>
    rw [itemsFrom, problems_seq, problems_map, under, problems_mapProblems, List.pairwise_append,
      List.pairwise_map]
    refine ⟨(h v _).ordered.imp (.item hs), ih fun w hw => h w _, ?_⟩
    intro p hp q hq
    obtain ⟨p, -, rfl⟩ := List.mem_map.1 hp
    obtain ⟨j, w, q, -, -, rfl⟩ := (mem_problems_itemsFrom (fun w hw => h w _) q).1 hq
    exact .index (by omega)

theorem exact_items (hs : s.item? = some t) (h : ∀ w hw, t.Exact w (check w hw).problems) :
    s.Exact (.array vs) (items vs check).problems where
  mem_iff p := by simp [items, mem_problems_itemsFrom h, offends_array hs]
  ordered := pairwise_problems_itemsFrom hs h

end Items

variable {t : Shape}

theorem exact_parts {check : (w : Document) → sizeOf w < sizeOf v → Result Empty α}
    (h : ∀ w hw, t.Exact w (check w hw).problems) :
    (Shape.sequence t).Exact v (parts v check).problems := by
  cases v with
  | array vs => exact exact_items rfl fun w hw => h w _
  | ready r => exact r.elim
  | _ => exact .of_misfit (.sequence (by simp))

theorem exact_sequence {check : Document → Result Empty α} (h : ∀ w, t.Exact w (check w).problems)
    (v : Document) : (Shape.sequence t).Exact v (sequence check v).problems :=
  exact_parts fun w _ => h w

theorem exact_list {check : Document → Result Empty α} (h : ∀ w, t.Exact w (check w).problems)
    (v : Document) : (Shape.list t).Exact v (list check v).problems := by
  cases v with
  | array vs => exact exact_items rfl fun w _ => h w
  | ready r => exact r.elim
  | _ => exact .of_misfit (.list (by simp))

/-! ### Checks of fields -/

section Fields

variable {fields : List (String × Document)} {keys : List String} {s : Shape}
  {check : Json.FieldOf fields → Result Empty α}

theorem exact_of_lookup? {f : Field} {g : Json.FieldOf fields}
    (hg : Json.lookup? fields f.keys = some g) (h : f.shape.Exact g.1.2 (check g).problems) :
    f.Exact fields (under (.key g.1.1) (check g)).problems := by
  have hv : f.value? fields = some g.1 := by rw [← f.map_lookup?, hg, Option.map_some]
  rw [under, problems_mapProblems]
  exact .of_value hv h

theorem exact_required (h : ∀ g, s.Exact g.1.2 (check g).problems) :
    (Field.required keys s).Exact fields (required fields keys check).problems := by
  rw [required]
  cases hg : Json.lookup? fields keys with
  | some g => exact exact_of_lookup? hg (h g)
  | none => exact .of_missing rfl (by rw [← Field.map_lookup?, Field.required, hg, Option.map_none])

theorem exact_optional (absent : α) (h : ∀ g, s.Exact g.1.2 (check g).problems) :
    (Field.optional keys s).Exact fields (optional fields keys absent check).problems := by
  rw [optional]
  cases hg : Json.lookup? fields keys with
  | some g => exact exact_of_lookup? hg (h g)
  | none => exact .of_absent rfl (by rw [← Field.map_lookup?, Field.optional, hg, Option.map_none])

end Fields

end Check

/-! ### Checks of records -/

open Checked Check

theorem Parameter.exact_ofJson (v : Document) :
    (Shape.record .parameter).Exact v (ofJson v).problems := by
  cases v with
  | object fields =>
    have h : (Shape.record .parameter).Exact (.object fields) _ := Shape.Exact.of_fields
      (.cons (exact_required fun f => exact_text f.1.2)
        (.cons (exact_optional "" fun f => exact_text f.1.2) .nil))
    simpa [ofJson, problems_seq, problems_map] using h
  | ready r => exact r.elim
  | _ => exact .of_misfit (.record (by simp))

theorem Member.exact_ofJson (v : Document) :
    (Shape.record .member).Exact v (ofJson v).problems := by
  cases v with
  | object fields =>
    have h : (Shape.record .member).Exact (.object fields) _ := Shape.Exact.of_fields
      (.cons (exact_required fun f => exact_choice MemberKind f.1.2)
        (.cons (exact_required fun f => exact_text f.1.2)
        (.cons (exact_optional "" fun f => exact_text f.1.2)
        (.cons (exact_optional .unspecified fun f => exact_choice Visibility f.1.2)
        (.cons (exact_optional false fun f => exact_flag f.1.2)
        (.cons (exact_optional false fun f => exact_flag f.1.2)
        (.cons (exact_optional false fun f => exact_flag f.1.2)
        (.cons (exact_optional [] fun f => exact_sequence Parameter.exact_ofJson f.1.2) .nil))))))))
    simpa [ofJson, problems_seq, problems_map] using h
  | ready r => exact r.elim
  | _ => exact .of_misfit (.record (by simp))

theorem TypeSymbol.exact_ofJson (v : Document) :
    (Shape.record .type).Exact v (ofJson v).problems := by
  cases v with
  | object fields =>
    -- The types inside are parts of fields, so that they are smaller than the object.
    have hsize (f : Json.FieldOf fields) : sizeOf f.1.2 < sizeOf (Json.object fields) :=
      Json.sizeOf_lt_of_mem_object f.2
    have h : (Shape.record .type).Exact (.object fields) _ := Shape.Exact.of_fields
      (.cons (exact_required fun f => exact_text f.1.2)
        (.cons (exact_optional .classType fun f => exact_choice TypeKind f.1.2)
        (.cons (exact_optional "" fun f => exact_text f.1.2)
        (.cons (exact_optional .userDefined fun f => exact_choice Origin f.1.2)
        (.cons (exact_optional none fun f => exact_nullable (exact_choice SpecialType f.1.2))
        (.cons (exact_optional [] fun f => exact_sequence Member.exact_ofJson f.1.2)
        (.cons (exact_optional [] fun f => exact_parts fun w hw => TypeSymbol.exact_ofJson w)
        (.cons (exact_optional none fun f => exact_nullable (TypeSymbol.exact_ofJson f.1.2))
          .nil))))))))
    rw [ofJson]
    simpa [problems_seq, problems_map] using h
  | ready r => exact r.elim
  | _ =>
    simp only [ofJson]
    exact .of_misfit (.record (by simp))
termination_by sizeOf v
decreasing_by
  · exact Nat.lt_trans hw (hsize f)
  · exact hsize f

theorem Model.exact_ofJson (v : Document) :
    (Shape.record .model).Exact v (ofJson v).problems := by
  cases v with
  | object fields =>
    have h : (Shape.record .model).Exact (.object fields) _ := Shape.Exact.of_fields
      (.cons (exact_optional [] fun f => exact_sequence TypeSymbol.exact_ofJson f.1.2) .nil)
    simpa [ofJson, problems_map] using h
  | ready r => exact r.elim
  | _ => exact .of_misfit (.record (by simp))

theorem NamespaceRule.exact_ofJson (v : Document) :
    (Shape.record .rule).Exact v (ofJson v).problems := by
  cases v with
  | object fields =>
    have h : (Shape.record .rule).Exact (.object fields) _ := Shape.Exact.of_fields
      (.cons (exact_required fun f => exact_text f.1.2) .nil)
    simpa [ofJson, problems_map] using h
  | ready r => exact r.elim
  | _ => exact .of_misfit (.record (by simp))

theorem FilterConfig.exact_ofJson (v : Document) :
    (Shape.record .config).Exact v (ofJson v).problems := by
  cases v with
  | object fields =>
    have h : (Shape.record .config).Exact (.object fields) _ := Shape.Exact.of_fields
      (.cons (exact_optional defaultFrameworkNamespaces fun f => exact_list exact_text f.1.2)
        (.cons (exact_optional defaultSpecialBases fun f =>
          exact_list (exact_choice SpecialType) f.1.2)
        (.cons (exact_optional defaultSpecialInterfaces fun f =>
          exact_list (exact_choice SpecialType) f.1.2) .nil)))
    simpa [ofJson, problems_seq, problems_map] using h
  | ready r => exact r.elim
  | _ => exact .of_misfit (.record (by simp))

theorem RenderRequest.exact_ofJson (v : Document) :
    (Shape.record .request).Exact v (ofJson v).problems := by
  cases v with
  | object fields =>
    have h : (Shape.record .request).Exact (.object fields) _ := Shape.Exact.of_fields
      (.cons (exact_required fun f => Model.exact_ofJson f.1.2)
        (.cons (exact_optional none fun f =>
          exact_nullable (FilterConfig.exact_ofJson f.1.2)) .nil))
    simpa [ofJson, problems_seq, problems_map] using h
  | ready r => exact r.elim
  | _ => exact .of_misfit (.record (by simp))

/-! ### Models -/

namespace Model

/-- **A model is checked exactly.** It is read if and only if nothing offends. Otherwise every place
that offends is reported, each once and in order; its path leads to the value that is reported with
it, and the path to a missing field leads to the object without it. -/
theorem checks_exactly (v : Document) :
    ((∃ m, ofJson v = .ok m) ↔ ∀ p, ¬ (Shape.record .model).Offends v p) ∧
    (∀ p, p ∈ (ofJson v).problems ↔ (Shape.record .model).Offends v p) ∧
    ((ofJson v).problems.map Problem.path).Nodup ∧
    ((ofJson v).problems.map Problem.path).Pairwise (Shape.record .model).Before ∧
    ∀ p ∈ (ofJson v).problems,
      (p.cause ≠ .missing → v.follow? p.path = some p.input) ∧
      (p.cause = .missing → p.path ≠ [] ∧ (∃ fields, p.input = .object fields) ∧
        v.follow? p.path.dropLast = some p.input) := by
  have h := exact_ofJson v
  have hordered := List.pairwise_map.2 h.ordered
  refine ⟨?_, h.mem_iff, hordered.imp Shape.Before.ne, hordered,
    fun p hp => ((h.mem_iff p).1 hp).follow?⟩
  rw [exists_ok_iff, List.eq_nil_iff_forall_not_mem]
  simp only [h.mem_iff]

/-- A model with a member that is marked as static by a number. -/
def markedByNumber : Document :=
  .object [("types", .array [.object [("name", .str "A"), ("members", .array [.object
    [("memberKind", .str "Property"), ("name", .str "x"), ("isStatic", .int 1)]])]])]

/-- What is to be a truth value need not be written as one. -/
theorem markedByNumber_ok :
    (∃ m, ofJson markedByNumber = .ok m) ∧
    ∃ path w, (Shape.record .model).Leads markedByNumber path .flag w ∧ ∀ b, w ≠ .bool b := by
  refine ⟨exists_ok_iff.2 (List.isEmpty_iff.1 (by decide +kernel)),
    [.key "types", .index 0, .key "members", .index 0, .key "isStatic"], .int 1, ?_, by simp⟩
  exact .field (List.mem_of_getElem? (i := 0) rfl) rfl
    (.item rfl rfl (.field (List.mem_of_getElem? (i := 5) rfl) rfl
      (.item rfl rfl (.field (List.mem_of_getElem? (i := 4) rfl) rfl .here))))

end Model

end ClassDiagram
