import ClassDiagram.Text.Newline
import Mathlib.Data.List.TakeWhile

/-!
# Line ends

Of what follows a piece of a line a reader sees no more than the first character, to which a
carriage return is as good as a line feed.

* `Text.IsLineEnd` tells the characters that end a line, `Text.begins` compares texts up to the
  first character;
* `Text.Settles` says that a piece of a line decides about a property of a text;
* `Text.Settles.unifyNewlines` and `Text.Settles.of_unifyNewlines` carry such a property to the text
  with line feeds only, and back.
-/

namespace ClassDiagram

/-! ### Pieces of lines -/

namespace Text

/-- A character that ends a line. -/
def IsLineEnd (c : Char) : Prop := c = '\r' ∨ c = '\n'

/-- The first character of a text, where each line end is a line feed. -/
def begins (cs : List Char) : Option Char := cs.head?.map fun c => if c = '\r' then '\n' else c

/-- The first `n` characters of a text stand on one line, and the property holds of every text that
has them and goes on with the same character, or with a line end where this one does. -/
inductive Settles (P : List Char → Prop) : Nat → List Char → Prop
  | intro {w cs : List Char} (hw : ∀ c ∈ w, ¬ IsLineEnd c)
      (h : ∀ ds, begins ds = begins cs → P (w ++ ds)) : Settles P w.length (w ++ cs)

variable {P Q : List Char → Prop} {c : Char} {cs ds w : List Char} {n k : Nat}

theorem begins_append (h : begins cs = begins ds) (w : List Char) :
    begins (w ++ cs) = begins (w ++ ds) := by
  cases w with
  | nil => exact h
  | cons c w => rfl

/-- Texts that begin alike are empty, have the same first character, or start with line ends. -/
theorem begins_cases (h : begins cs = begins ds) : (cs = [] ∧ ds = []) ∨
    (∃ c cs' ds', cs = c :: cs' ∧ ds = c :: ds') ∨
    ∃ c d cs' ds', IsLineEnd c ∧ IsLineEnd d ∧ cs = c :: cs' ∧ ds = d :: ds' := by
  cases cs with
  | nil =>
    cases ds with
    | nil => exact .inl ⟨rfl, rfl⟩
    | cons d ds => cases h
  | cons c cs =>
    cases ds with
    | nil => cases h
    | cons d ds =>
      have hcd : (if c = '\r' then '\n' else c) = if d = '\r' then '\n' else d := Option.some.inj h
      right
      split_ifs at hcd with hc hd hd
      · exact .inr ⟨c, d, cs, ds, .inl hc, .inl hd, rfl, rfl⟩
      · exact .inr ⟨c, d, cs, ds, .inl hc, .inr hcd.symm, rfl, rfl⟩
      · exact .inr ⟨c, d, cs, ds, .inr hcd, .inl hd, rfl, rfl⟩
      · exact .inl ⟨c, cs, ds, rfl, by rw [hcd]⟩

/-- Texts that begin alike both start with a character that ends no line, or none of them does. -/
theorem head?_eq_some_iff_of_begins (h : begins cs = begins ds) (hc : ¬ IsLineEnd c) :
    cs.head? = some c ↔ ds.head? = some c := by
  obtain ⟨rfl, rfl⟩ | ⟨_, _, _, rfl, rfl⟩ | ⟨a, b, _, _, ha, hb, rfl, rfl⟩ := begins_cases h
  · rfl
  · rfl
  · have hac : a ≠ c := fun hac => hc (hac ▸ ha)
    have hbc : b ≠ c := fun hbc => hc (hbc ▸ hb)
    simp [hac, hbc]

namespace Settles

theorem nil (h : ∀ ds, begins ds = begins cs → P ds) : Settles P 0 cs :=
  .intro (w := []) (by simp) h

theorem of_append (hw : ∀ c ∈ w, ¬ IsLineEnd c) (hn : w.length = n) (h : ∀ ds, P (w ++ ds)) :
    Settles P n (w ++ cs) :=
  hn ▸ .intro hw fun ds _ => h ds

theorem imp (hPQ : ∀ cs, P cs → Q cs) (h : Settles P n cs) : Settles Q n cs := by
  obtain ⟨hw, h⟩ := h
  exact .intro hw fun ds hds => hPQ _ (h ds hds)

theorem cons (hc : ¬ IsLineEnd c) (h : Settles P n cs) :
    Settles (fun ds => ∃ es, ds = c :: es ∧ P es) (n + 1) (c :: cs) := by
  obtain ⟨hw, h⟩ := h
  exact .intro (List.forall_mem_cons.2 ⟨hc, hw⟩) fun ds hds => ⟨_, rfl, h ds hds⟩

/-- A piece of a line and the piece behind it decide together. -/
theorem seq (h : Settles P n cs) (h' : Settles Q k (cs.drop n)) :
    Settles (fun ds => P ds ∧ Q (ds.drop n)) (n + k) cs := by
  obtain @⟨w, cs, hw, h⟩ := h
  rw [List.drop_left] at h'
  obtain @⟨w', cs, hw', h'⟩ := h'
  rw [← List.append_assoc, ← List.length_append]
  refine .intro (List.forall_mem_append.2 ⟨hw, hw'⟩) fun ds hds => ?_
  rw [List.append_assoc, List.drop_left]
  exact ⟨h _ (begins_append hds w'), h' ds hds⟩

theorem tail (h : Settles P (n + 1) (c :: cs)) : Settles (fun ds => P (c :: ds)) n cs := by
  generalize hm : n + 1 = m at h
  generalize hes : c :: cs = es at h
  obtain @⟨w, cs', hw, h⟩ := h
  cases w with
  | nil => cases hm
  | cons d w =>
    cases hm
    cases hes
    exact .intro (List.forall_mem_cons.1 hw).2 fun ds hds => h ds hds

end Settles

/-- Characters that no line end is like are the first ones of a text, as many as there are. -/
theorem settles_takeWhile {p : Char → Bool} (hp : ∀ c, IsLineEnd c → p c = false)
    (cs : List Char) :
    Settles (fun ds => ds.takeWhile p = cs.takeWhile p) (cs.takeWhile p).length cs := by
  induction cs with
  | nil =>
    refine .nil fun ds hds => ?_
    obtain ⟨rfl, -⟩ | ⟨_, _, _, -, h⟩ | ⟨_, _, _, _, -, -, -, h⟩ := begins_cases hds
    · rfl
    · cases h
    · cases h
  | cons c cs ih =>
    by_cases hc : p c
    · rw [List.takeWhile_cons_of_pos hc]
      refine (ih.cons fun hend => by simp [hp c hend] at hc).imp ?_
      rintro _ ⟨es, rfl, hes⟩
      rw [List.takeWhile_cons_of_pos hc, hes]
    · rw [List.takeWhile_cons_of_neg hc]
      refine .nil fun ds hds => ?_
      obtain ⟨-, h⟩ | ⟨_, _, _, rfl, h⟩ | ⟨d, _, _, _, hd, -, rfl, -⟩ := begins_cases hds
      · cases h
      · cases h
        rw [List.takeWhile_cons_of_neg hc]
      · rw [List.takeWhile_cons_of_neg (by simp [hp d hd])]

/-! ### Uniform line ends -/

theorem unifyNewlines_cons (hc : c ≠ '\r') (cs : List Char) :
    unifyNewlines (c :: cs) = c :: unifyNewlines cs := by
  rw [unifyNewlines.eq_def]
  split
  next h => cases h
  next h => exact absurd (List.cons.inj h).1 hc
  next h => exact absurd (List.cons.inj h).1 hc
  next h => cases h; rfl

/-- A carriage return becomes a line feed, or it is left out before one. -/
theorem unifyNewlines_return (cs : List Char) :
    unifyNewlines ('\r' :: cs) = '\n' :: unifyNewlines cs ∨
      unifyNewlines ('\r' :: cs) = unifyNewlines cs := by
  rw [unifyNewlines.eq_def]
  split
  next h => cases h
  next h =>
    cases h
    exact .inr (unifyNewlines_cons (by decide) _).symm
  next h => cases h; exact .inl rfl
  next _ h h' => cases h'; exact absurd rfl h

theorem unifyNewlines_append (hw : ∀ c ∈ w, ¬ IsLineEnd c) (cs : List Char) :
    unifyNewlines (w ++ cs) = w ++ unifyNewlines cs := by
  induction w with
  | nil => rfl
  | cons c w ih =>
    rw [List.forall_mem_cons] at hw
    rw [List.cons_append, unifyNewlines_cons fun hc => hw.1 (.inl hc), ih hw.2, List.cons_append]

theorem begins_unifyNewlines (cs : List Char) : begins (unifyNewlines cs) = begins cs := by
  fun_cases unifyNewlines cs <;> simp [begins]

/-- What stands before the first line end stood there before. -/
theorem exists_of_unifyNewlines_eq_append (hw : ∀ c ∈ w, ¬ IsLineEnd c)
    (h : unifyNewlines cs = w ++ ds) : ∃ es, cs = w ++ es ∧ unifyNewlines es = ds := by
  induction w generalizing cs with
  | nil => exact ⟨cs, rfl, h⟩
  | cons c w ih =>
    rw [List.forall_mem_cons] at hw
    rw [List.cons_append] at h
    cases cs with
    | nil => cases h
    | cons b cs =>
      by_cases hb : IsLineEnd b
      · have hbegins := begins_unifyNewlines (b :: cs)
        rw [h] at hbegins
        obtain ⟨h, -⟩ | ⟨_, _, _, h, h'⟩ | ⟨_, _, _, _, hc, -, h, -⟩ := begins_cases hbegins
        · cases h
        · cases h
          cases h'
          exact absurd hb hw.1
        · cases h
          exact absurd hc hw.1
      · rw [unifyNewlines_cons fun hr => hb (.inl hr)] at h
        obtain ⟨rfl, htail⟩ := List.cons.inj h
        obtain ⟨es, rfl, hes⟩ := ih hw.2 htail
        exact ⟨es, rfl, hes⟩

theorem Settles.unifyNewlines (h : Settles P n cs) :
    P (unifyNewlines cs) ∧ (unifyNewlines cs).drop n = unifyNewlines (cs.drop n) := by
  obtain ⟨hw, h⟩ := h
  rw [unifyNewlines_append hw, List.drop_left, List.drop_left]
  exact ⟨h _ (begins_unifyNewlines _), rfl⟩

theorem Settles.of_unifyNewlines (h : Settles P n (Text.unifyNewlines cs)) : P cs := by
  generalize hds : Text.unifyNewlines cs = ds at h
  obtain ⟨hw, h⟩ := h
  obtain ⟨es, rfl, rfl⟩ := exists_of_unifyNewlines_eq_append hw hds
  exact h es (begins_unifyNewlines es).symm

end Text

end ClassDiagram
