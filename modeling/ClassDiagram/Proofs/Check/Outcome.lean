import ClassDiagram.Check.Problem
import Mathlib.Data.List.Forall2

/-!
# Outcomes of checks

When an outcome that is put together from other ones is a result, and when two outcomes come to the
same: they have the same result, or else problems that correspond one by one. What corresponds is
left open here.

* `bind_eq_ok_iff`, `Checked.seq_eq_ok_iff` and their like take a result apart;
* `Checked.Alike` compares two outcomes;
* it is an equivalence where the correspondence is one, and checks that are put together from alike
  checks are alike.
-/

namespace ClassDiagram

section Steps

variable {ε δ α β γ : Type} {x : Except ε α}

theorem bind_eq_ok_iff {f : α → Except ε β} {b : β} :
    x >>= f = .ok b ↔ ∃ a, x = .ok a ∧ f a = .ok b := by
  cases x <;> simp [bind, Except.bind]

theorem mapError_eq_ok_iff {f : ε → δ} {a : α} : x.mapError f = .ok a ↔ x = .ok a := by
  cases x with
  | error e => exact ⟨nofun, nofun⟩
  | ok b =>
    constructor <;> intro h <;> cases h <;> rfl

theorem exists_ok_of_mapM {f : α → Except ε β} {as : List α} {bs : List β}
    (h : as.mapM f = .ok bs) : ∀ a ∈ as, ∃ b, f a = .ok b := by
  induction as generalizing bs with
  | nil => exact List.forall_mem_nil _
  | cons a as ih =>
    rw [List.mapM_cons] at h
    obtain ⟨b, hb, h⟩ := bind_eq_ok_iff.1 h
    obtain ⟨bs, hbs, -⟩ := bind_eq_ok_iff.1 h
    exact List.forall_mem_cons.2 ⟨⟨b, hb⟩, ih hbs⟩

theorem exists_mapM {f : α → Except ε β} {as : List α} (h : ∀ a ∈ as, ∃ b, f a = .ok b) :
    ∃ bs, as.mapM f = .ok bs := by
  induction as with
  | nil => exact ⟨[], rfl⟩
  | cons a as ih =>
    rw [List.forall_mem_cons] at h
    obtain ⟨⟨b, hb⟩, h⟩ := h
    obtain ⟨bs, hbs⟩ := ih h
    exact ⟨b :: bs, by rw [List.mapM_cons, hb, hbs]; rfl⟩

theorem mapM_map_eq_ok {f : β → α} {g : α → Except ε γ} {k : β → γ}
    (h : ∀ b, g (f b) = .ok (k b)) (bs : List β) : (bs.map f).mapM g = .ok (bs.map k) := by
  induction bs with
  | nil => rfl
  | cons b bs ih =>
    rw [List.map_cons, List.mapM_cons, h, ih]
    rfl

theorem map_bind_congr {f f' : α → Except ε β} {g : β → γ}
    (h : ∀ a, (f a).map g = (f' a).map g) : (x >>= f).map g = (x >>= f').map g := by
  cases x with
  | error e => rfl
  | ok a => exact h a

end Steps

namespace Checked

variable {ε δ α β : Type}

section Results

variable {x : Checked ε α}

theorem seq_eq_ok_iff {f : Checked ε (α → β)} {b : β} :
    f <*> x = .ok b ↔ ∃ g a, f = .ok g ∧ x = .ok a ∧ g a = b := by
  cases f <;> cases x <;> simp [Seq.seq, seq]

theorem map_eq_ok_iff {f : α → β} {b : β} : f <$> x = .ok b ↔ ∃ a, x = .ok a ∧ f a = b := by
  cases x <;> simp [Functor.map, seq]

theorem mapProblems_eq_ok_iff {f : ε → δ} {a : α} : x.mapProblems f = .ok a ↔ x = .ok a := by
  cases x <;> simp [mapProblems]

theorem mapError_toExcept_eq_ok_iff {f : List ε → δ} {a : α} :
    x.toExcept.mapError f = .ok a ↔ x = .ok a := by
  cases x <;> simp [toExcept, Except.mapError]

end Results

/-- The outcomes have the same result, or problems that correspond one by one and in order. -/
inductive Alike (R : ε → ε → Prop) : Checked ε α → Checked ε α → Prop
  | ok (a : α) : Alike R (ok a) (ok a)
  | bad {p q : ε} {ps qs : List ε} (first : R p q) (others : List.Forall₂ R ps qs) :
      Alike R (bad p ps) (bad q qs)

namespace Alike

variable {R : ε → ε → Prop} {S : δ → δ → Prop} {x y z : Checked ε α}

protected theorem refl (hR : ∀ e, R e e) (x : Checked ε α) : Alike R x x := by
  cases x with
  | ok a => exact .ok a
  | bad p ps => exact .bad (hR p) (List.forall₂_same.2 fun e _ => hR e)

protected theorem symm (hR : ∀ d e, R d e → R e d) (h : Alike R x y) : Alike R y x := by
  cases h with
  | ok a => exact .ok a
  | bad hp hps => exact .bad (hR _ _ hp) (hps.imp hR).flip

theorem forall₂_trans (hR : ∀ d e f, R d e → R e f → R d f) {ds es fs : List ε}
    (h : List.Forall₂ R ds es) (h' : List.Forall₂ R es fs) : List.Forall₂ R ds fs := by
  induction h generalizing fs with
  | nil => exact h'
  | cons hde _ ih =>
    cases h' with
    | cons hef h' => exact .cons (hR _ _ _ hde hef) (ih h')

protected theorem trans (hR : ∀ d e f, R d e → R e f → R d f) (h : Alike R x y)
    (h' : Alike R y z) : Alike R x z := by
  cases h with
  | ok a => exact h'
  | bad hp hps =>
    cases h' with
    | bad hq hqs => exact .bad (hR _ _ _ hp hq) (forall₂_trans hR hps hqs)

theorem imp {S : ε → ε → Prop} (hS : ∀ d e, R d e → S d e) (h : Alike R x y) : Alike S x y := by
  cases h with
  | ok a => exact .ok a
  | bad hp hps => exact .bad (hS _ _ hp) (hps.imp hS)

theorem eq_ok_iff (h : Alike R x y) (a : α) : x = .ok a ↔ y = .ok a := by
  cases h <;> simp

theorem problems (h : Alike R x y) : List.Forall₂ R x.problems y.problems := by
  cases h with
  | ok a => exact .nil
  | bad hp hps => exact .cons hp hps

theorem seq {f g : Checked ε (α → β)} (hf : Alike R f g) (hx : Alike R x y) :
    Alike R (f <*> x) (g <*> y) := by
  cases hf with
  | ok k =>
    cases hx with
    | ok a => exact .ok (k a)
    | bad hp hps => exact .bad hp hps
  | bad hp hps =>
    cases hx with
    | ok a => exact .bad hp hps
    | bad hq hqs => exact .bad hp (List.rel_append hps (.cons hq hqs))

theorem map (k : α → β) (h : Alike R x y) : Alike R (k <$> x) (k <$> y) :=
  seq (.ok k) h

theorem mapProblems {f g : ε → δ} (hS : ∀ d e, R d e → S (f d) (g e)) (h : Alike R x y) :
    Alike S (x.mapProblems f) (y.mapProblems g) := by
  cases h with
  | ok a => exact .ok a
  | bad hp hps => exact .bad (hS _ _ hp) (List.rel_map (fun {d e} => hS d e) hps)

end Alike

end Checked

end ClassDiagram
