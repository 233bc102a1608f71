import ClassDiagram.Json.Lenient
import ClassDiagram.Json.Strict
import Mathlib.Data.Nat.Basic
import Mathlib.Order.Basic
import Mathlib.Tactic.SplitIfs

/-!
# How deep containers are nested

The reader of files bounds the nesting of containers, so that what it reads is no deeper than that.

* `Json.depth` counts containers that lie inside each other, but for empty ones;
* `ReadState.Bounded` is the invariant of a reader with a limit: what is complete at some moment
  fits into the containers that are open around it;
* `Json.Strict.depth_le_of_read` is the bound on what is read.
-/

namespace ClassDiagram

namespace Json

variable {ρ : Type}

mutual

/-- How many containers that are not empty lie inside each other. -/
def depth : Json ρ → Nat
  | array items => itemsDepth items
  | object fields => fieldsDepth fields
  | _ => 0

/-- The depth of an array of these items. -/
def itemsDepth : List (Json ρ) → Nat
  | [] => 0
  | v :: vs => max (v.depth + 1) (itemsDepth vs)

/-- The depth of an object of these fields. -/
def fieldsDepth : List (String × Json ρ) → Nat
  | [] => 0
  | (_, v) :: fields => max (v.depth + 1) (fieldsDepth fields)

end

variable {v : Json ρ} {vs : List (Json ρ)} {fields : List (String × Json ρ)} {n : Nat}

theorem depth_array_le_iff : (array vs).depth ≤ n ↔ ∀ v ∈ vs, v.depth + 1 ≤ n := by
  rw [depth]
  induction vs with
  | nil => simp [itemsDepth]
  | cons v vs ih => rw [itemsDepth, Nat.max_le, ih, List.forall_mem_cons]

theorem depth_object_le_iff : (object fields).depth ≤ n ↔ ∀ f ∈ fields, f.2.depth + 1 ≤ n := by
  rw [depth]
  induction fields with
  | nil => simp [fieldsDepth]
  | cons f fields ih => rw [fieldsDepth, Nat.max_le, ih, List.forall_mem_cons]

theorem depth_array_reverse (vs : List (Json ρ)) : (array vs.reverse).depth = (array vs).depth :=
  eq_of_forall_ge_iff fun n => by simp only [depth_array_le_iff, List.mem_reverse]

theorem one_le_depth_object (h : fields ≠ []) : 1 ≤ (object fields).depth := by
  obtain ⟨f, fs, rfl⟩ := List.exists_cons_of_ne_nil h
  rw [depth, fieldsDepth]
  omega

theorem depth_object_put_le (k : String) (v : Json ρ) (fields : List (String × Json ρ)) :
    (object (put k v fields)).depth ≤ max (v.depth + 1) (object fields).depth := by
  rw [depth, depth]
  induction fields with
  | nil => simp [put, fieldsDepth]
  | cons f fields ih =>
    rw [put]
    split_ifs
    · simp only [fieldsDepth]
      omega
    · simp only [fieldsDepth]
      omega

end Json

/-! ### Open containers -/

/-- What is complete in an open container. -/
def Frame.content : Frame → Document
  | array items => .array items
  | object fields _ => .object fields

/-- Open containers are no more than `n`, and what is complete in them is no deeper than that. -/
def Frame.Fit (n : Nat) : List Frame → Prop
  | [] => True
  | f :: outer => outer.length + 1 ≤ n ∧ outer.length + f.content.depth ≤ n ∧ Fit n outer

theorem Frame.Fit.length_le {n : Nat} {outer : List Frame} (h : Fit n outer) :
    outer.length ≤ n := by
  cases outer with
  | nil => exact Nat.zero_le n
  | cons f outer => exact h.1

namespace ReadState

variable {ε : Type} {n : Nat} {s s' : ReadState} {l : Lexeme ε} {outer : List Frame}

/-- What is complete fits, with the open containers around it, into a depth of `n`. -/
def Bounded (n : Nat) : ReadState → Prop
  | start => True
  | firstItem outer => Frame.Fit n outer
  | nextItem items outer => Frame.Fit n (.array items :: outer)
  | itemEnd items outer => Frame.Fit n (.array items :: outer)
  | firstKey outer => Frame.Fit n outer
  | nextKey fields outer => outer.length + (Json.object fields).depth ≤ n ∧ Frame.Fit n outer
  | colon fields _ outer => outer.length + (Json.object fields).depth ≤ n ∧ Frame.Fit n outer
  | field fields key outer => Frame.Fit n (.object fields key :: outer)
  | fieldEnd fields outer => outer.length + (Json.object fields).depth ≤ n ∧ Frame.Fit n outer
  | done v => v.depth ≤ n

theorem bounded_complete {v : Document} (hv : outer.length + v.depth ≤ n)
    (houter : Frame.Fit n outer) : (complete v outer).Bounded n := by
  cases outer with
  | nil => simpa [complete, Bounded] using hv
  | cons f outer =>
    obtain ⟨hlength, hcontent, houter⟩ := houter
    rw [List.length_cons] at hv
    cases f with
    | array items =>
      rw [Frame.content, Json.depth] at hcontent
      refine ⟨hlength, ?_, houter⟩
      rw [Frame.content, Json.depth, Json.itemsDepth]
      omega
    | object fields key =>
      -- The value may replace an earlier one, so that the object may become less deep.
      rw [Frame.content] at hcontent
      refine ⟨?_, houter⟩
      have hput := Json.depth_object_put_le key v fields
      omega

theorem bounded_beginValue (houter : Frame.Fit n outer)
    (hliteral : ∀ v, l.token = .literal v → v.depth = 0) (h : s.beginValue outer l = .ok s') :
    s'.Bounded n := by
  have hlength := houter.length_le
  rw [beginValue] at h
  split at h
  case h_1 x _ =>
    cases h
    exact bounded_complete (by simpa [Json.depth] using hlength) houter
  case h_2 v hv =>
    cases h
    exact bounded_complete (by simpa [hliteral v hv] using hlength) houter
  case h_3 => cases h; exact houter
  case h_4 => cases h; exact houter
  case h_5 => cases h
  case h_6 => cases h

theorem bounded_beginKey {fields : List (String × Document)}
    (hfields : outer.length + (Json.object fields).depth ≤ n) (houter : Frame.Fit n outer)
    (h : s.beginKey fields outer l = .ok s') : s'.Bounded n := by
  rw [beginKey] at h
  split at h
  case h_1 => cases h; exact ⟨hfields, houter⟩
  case h_2 => cases h
  case h_3 => cases h

theorem isFull_eq_false_iff : isFull (some n) outer = false ↔ outer.length + 1 ≤ n := by
  rw [isFull, Option.any_some, decide_eq_false_iff_not]
  omega

/-- One token keeps what is complete within the limit. -/
theorem bounded_step (hs : s.Bounded n) (hliteral : ∀ v, l.token = .literal v → v.depth = 0)
    (h : s.step (some n) l = .ok s') : s'.Bounded n := by
  cases s with
  | start =>
    have hnone : Frame.Fit n [] := trivial
    exact bounded_beginValue hnone hliteral h
  | firstItem outer =>
    simp only [step] at h
    split at h
    · cases h
      exact bounded_complete hs.length_le hs
    · -- The first item of an array is where the reader counts the array.
      split_ifs at h with hfull
      have hlength := isFull_eq_false_iff.1 (Bool.not_eq_true _ ▸ hfull)
      have hframe : Frame.Fit n (.array [] :: outer) := ⟨hlength, Nat.le_of_succ_le hlength, hs⟩
      exact bounded_beginValue hframe hliteral h
  | nextItem items outer => exact bounded_beginValue hs hliteral h
  | itemEnd items outer =>
    simp only [step] at h
    split at h
    · cases h
      exact hs
    · cases h
      obtain ⟨-, hcontent, houter⟩ := hs
      refine bounded_complete ?_ houter
      rwa [Json.depth_array_reverse]
    · cases h
  | firstKey outer =>
    simp only [step] at h
    split at h
    · cases h
      exact bounded_complete hs.length_le hs
    · have hempty : outer.length + (Json.object [] : Document).depth ≤ n := hs.length_le
      exact bounded_beginKey hempty hs h
  | nextKey fields outer => exact bounded_beginKey hs.1 hs.2 h
  | colon fields key outer =>
    simp only [step] at h
    split at h
    · -- It counts an object at the first colon; at a later one, the object has a field already.
      split_ifs at h with hfull
      cases h
      obtain ⟨hfields, houter⟩ := hs
      refine ⟨?_, hfields, houter⟩
      by_cases hnil : fields = []
      · rw [hnil] at hfull
        exact isFull_eq_false_iff.1 (by simpa using hfull)
      · have hone := Json.one_le_depth_object hnil
        omega
    · cases h
  | field fields key outer => exact bounded_beginValue hs hliteral h
  | fieldEnd fields outer =>
    simp only [step] at h
    split at h
    · cases h
      exact hs
    · cases h
      exact bounded_complete hs.1 hs.2
    · cases h
  | done v => cases h

/-- A text of tokens keeps what is complete within the limit. -/
theorem bounded_foldlM {ls : List (Lexeme ε)} (hs : s.Bounded n)
    (hliteral : ∀ l ∈ ls, ∀ v, l.token = .literal v → v.depth = 0)
    (h : ls.foldlM (step (some n)) s = .ok s') : s'.Bounded n := by
  induction ls generalizing s with
  | nil =>
    cases h
    exact hs
  | cons l ls ih =>
    rw [List.forall_mem_cons] at hliteral
    rw [List.foldlM_cons] at h
    cases ht : step (some n) s l with
    | error fault =>
      rw [ht] at h
      cases h
    | ok t =>
      rw [ht] at h
      exact ih (bounded_step hs hliteral.1 ht) hliteral.2 h

end ReadState

/-! ### Texts -/

namespace Json

/-- What holds of every literal that is scanned holds of every literal of a text. -/
theorem lexemes_literal {ε : Type} {scan : Char → List Char → Token ε × Nat} {P : Document → Prop}
    (hscan : ∀ c cs v, (scan c cs).1 = .literal v → P v) (start : Nat) (cs : List Char) :
    ∀ l ∈ lexemes scan start cs, ∀ v, l.token = .literal v → P v := by
  fun_induction lexemes scan start cs with
  | case1 => simp
  | case2 start c cs hblank ih => exact ih
  | case3 start c cs hblank t ht ih =>
    have hmark : ∀ v, t ≠ .literal v := by
      rintro v rfl
      unfold mark? at ht
      split at ht <;> cases ht
    exact List.forall_mem_cons.2 ⟨fun v hv => absurd hv (hmark v), ih⟩
  | case4 => simp
  | case5 start c cs hblank hmark t n hbroken hscanned ih =>
    refine List.forall_mem_cons.2 ⟨fun v hv => hscan c cs v ?_, ih⟩
    rw [hscanned]
    exact hv

theorem depth_numeral (x : Numeral) : (x.value : Document).depth = 0 := by
  unfold Numeral.value
  split <;> rfl

namespace Strict

theorem constant_literal {past : Nat} {v w : Document} {word cs : List Char}
    (h : (constant past v word cs).1 = .literal w) : w = v := by
  fun_induction constant past v word cs with
  | case1 => cases h; rfl
  | case2 => cases h
  | case3 _ _ _ _ ih => exact ih h
  | case4 => cases h

theorem numberToken_literal {x : Except (Cause × Nat) (Document × Nat)} {w : Document}
    (h : (numberToken x).1 = .literal w) : ∃ n, x = .ok (w, n) := by
  cases x with
  | error fault => cases h
  | ok result =>
    cases h
    exact ⟨_, rfl⟩

theorem depth_number {negative : Bool} {past n : Nat} {cs : List Char} {w : Document}
    (h : number negative past cs = .ok (w, n)) : w.depth = 0 := by
  rw [number] at h
  cases hwhole : someDigits past cs with
  | error fault =>
    rw [hwhole] at h
    cases h
  | ok whole =>
    simp only [hwhole, bind, Except.bind] at h
    split_ifs at h
    cases hfraction : fraction (past + whole.length) (cs.drop whole.length) with
    | error fault => simp [hfraction] at h
    | ok f =>
      simp only [hfraction] at h
      cases hexponent : exponent (past + whole.length + f.2) (cs.drop (whole.length + f.2)) with
      | error fault => simp [hexponent] at h
      | ok e =>
        simp only [hexponent] at h
        cases h
        exact depth_numeral _

/-- Every literal is flat. -/
theorem depth_scan (c : Char) (cs : List Char) (v : Document)
    (h : (scan c cs).1 = .literal v) : v.depth = 0 := by
  have hnumber {negative : Bool} {past : Nat} {cs : List Char}
      (h : (numberToken (number negative past cs)).1 = .literal v) : v.depth = 0 := by
    obtain ⟨n, hn⟩ := numberToken_literal h
    exact depth_number hn
  have hconstant {past : Nat} {u : Document} {word cs : List Char} (hu : u.depth = 0)
      (h : (constant past u word cs).1 = .literal v) : v.depth = 0 := by
    rw [constant_literal h, hu]
  unfold scan at h
  split at h
  case h_1 =>
    unfold scanString at h
    split at h <;> cases h
  case h_7 =>
    split at h
    · exact hconstant rfl h
    · exact hnumber h
  case h_8 =>
    split_ifs at h
    exact hnumber h
  all_goals exact hconstant rfl h

/-- What is read from a text is no deeper than the limit. -/
theorem depth_le_of_read {text : String} {v : Document} (h : read text = .ok v) :
    v.depth ≤ nestingLimit := by
  rw [read, readChars, ofLexemes] at h
  have hliteral := lexemes_literal (P := fun v => v.depth = 0) depth_scan 0 text.toList
  cases hs : (lexemes scan 0 text.toList).foldlM (ReadState.step (some nestingLimit)) .start with
  | error fault =>
    rw [hs] at h
    cases h
  | ok s =>
    rw [hs] at h
    have hbounded := ReadState.bounded_foldlM (s := .start) trivial hliteral hs
    cases s with
    | done w =>
      cases h
      exact hbounded
    | _ => cases h

end Strict

end Json

end ClassDiagram
