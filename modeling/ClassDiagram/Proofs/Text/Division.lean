import Mathlib.Data.List.Basic

/-!
# Dividing sequences at marks

A sequence that is put together around marks can be taken apart again, if the marks do not occur in
its pieces. The marks may be single items, such as the blank before a name, or all items with some
property, such as the lines that open a block.

* `Division.before_mark` divides two equal sequences before the first mark, `Division.at_first` and
  `Division.at_last` at the first and at the last place of one item;
* `Division.map_eq_of_flatMap_eq` divides equal sequences of blocks, each of which has its mark at
  the start, and `Division.eq_of_map_eq` recovers what the blocks were made of.
-/

namespace ClassDiagram.Division

variable {α β : Type} {P : β → Prop}

/-- Items that are no marks, before sequences that are empty or start with a mark. -/
theorem before_mark {x x' r r' : List β} (hx : ∀ b ∈ x, ¬ P b) (hx' : ∀ b ∈ x', ¬ P b)
    (hr : ∀ b ∈ r.head?, P b) (hr' : ∀ b ∈ r'.head?, P b) (h : x ++ r = x' ++ r') :
    x = x' ∧ r = r' := by
  induction x generalizing x' with
  | nil =>
    cases x' with
    | nil => exact ⟨rfl, h⟩
    | cons b x' =>
      rw [List.nil_append] at h
      exact absurd (hr b (by simp [h])) (hx' b List.mem_cons_self)
  | cons b x ih =>
    cases x' with
    | nil =>
      rw [List.nil_append] at h
      exact absurd (hr' b (by simp [← h])) (hx b List.mem_cons_self)
    | cons b' x' =>
      simp only [List.cons_append, List.cons.injEq] at h
      obtain ⟨rfl, h⟩ := h
      obtain ⟨rfl, hrest⟩ := ih (fun c hc => hx c (List.mem_cons_of_mem b hc))
        (fun c hc => hx' c (List.mem_cons_of_mem b hc)) h
      exact ⟨rfl, hrest⟩

/-- Two equal sequences divided at the first `a`. -/
theorem at_first {a : α} {x x' y y' : List α} (hx : a ∉ x) (hx' : a ∉ x')
    (h : x ++ a :: y = x' ++ a :: y') : x = x' ∧ y = y' := by
  obtain ⟨rfl, hr⟩ := before_mark (P := (· = a)) (fun b hb e => hx (e ▸ hb))
    (fun b hb e => hx' (e ▸ hb)) (by simp) (by simp) h
  exact ⟨rfl, List.tail_eq_of_cons_eq hr⟩

/-- Two equal sequences divided at the last `a`. -/
theorem at_last {a : α} {x x' y y' : List α} (hy : a ∉ y) (hy' : a ∉ y')
    (h : x ++ a :: y = x' ++ a :: y') : x = x' ∧ y = y' := by
  have hr : y.reverse ++ a :: x.reverse = y'.reverse ++ a :: x'.reverse := by
    simpa using congrArg List.reverse h
  obtain ⟨h₁, h₂⟩ := at_first (by simpa using hy) (by simpa using hy') hr
  exact ⟨List.reverse_injective h₂, List.reverse_injective h₁⟩

/-! ### Blocks -/

/-- A block: a mark, and then items that are none. -/
def IsBlock (P : β → Prop) (l : List β) : Prop := ∃ b x, l = b :: x ∧ P b ∧ ∀ c ∈ x, ¬ P c

theorem head?_flatMap {f : α → List β} (hf : ∀ a, IsBlock P (f a)) (as : List α) :
    ∀ b ∈ (as.flatMap f).head?, P b := by
  cases as with
  | nil => simp
  | cons a as =>
    obtain ⟨b, x, hfa, hb, -⟩ := hf a
    simpa [hfa] using hb

/-- Blocks one after the other can be told apart. -/
theorem map_eq_of_flatMap_eq {f : α → List β} (hf : ∀ a, IsBlock P (f a)) {as as' : List α}
    (h : as.flatMap f = as'.flatMap f) : as.map f = as'.map f := by
  induction as generalizing as' with
  | nil =>
    cases as' with
    | nil => rfl
    | cons a' as' =>
      obtain ⟨b, x, hfa, -, -⟩ := hf a'
      simp [hfa] at h
  | cons a as ih =>
    obtain ⟨b, x, hfa, -, hx⟩ := hf a
    cases as' with
    | nil => simp [hfa] at h
    | cons a' as' =>
      obtain ⟨b', x', hfa', -, hx'⟩ := hf a'
      simp only [List.flatMap_cons, hfa, hfa', List.cons_append, List.cons.injEq] at h
      obtain ⟨rfl, h⟩ := h
      obtain ⟨rfl, hrest⟩ := before_mark hx hx' (head?_flatMap hf as) (head?_flatMap hf as') h
      rw [List.map_cons, List.map_cons, hfa, hfa', ih hrest]

/-- A function that is injective where `Q` holds, applied to each item of two sequences. -/
theorem eq_of_map_eq {Q : α → Prop} {f : α → β} (hf : ∀ a a', Q a → Q a' → f a = f a' → a = a')
    {as as' : List α} (has : ∀ a ∈ as, Q a) (has' : ∀ a ∈ as', Q a)
    (h : as.map f = as'.map f) : as = as' := by
  induction as generalizing as' with
  | nil => simpa [eq_comm] using h
  | cons a as ih =>
    cases as' with
    | nil => simp at h
    | cons a' as' =>
      rw [List.forall_mem_cons] at has has'
      rw [List.map_cons, List.map_cons, List.cons.injEq] at h
      rw [hf a a' has.1 has'.1 h.1, ih has.2 has'.2 h.2]

end ClassDiagram.Division
