import ClassDiagram.Proofs.Check.Outcome
import ClassDiagram.Proofs.Json.RoundTrip
import ClassDiagram.Proofs.Text.LineEnd

/-!
# Line ends in JSON texts

A line end may stand between tokens and nowhere else, so that it does not matter how it is written.
The proof goes by tokens: a token that is read lies on one line, and what follows it decides about
it by its first character at most.

* `Json.StaysOnLine` says that a scanner reads no token over the end of a line;
* `Json.SameTokens` compares the tokens of two texts;
* `Json.ReadsPiece` says that what is read of a text is a piece of a line;
* `Json.Strict.read_withLineFeeds_eq_ok_iff` is the result for files.
-/

namespace ClassDiagram

/-! ### Tokens -/

/-- It is no token. -/
def Token.IsBroken {ε : Type} (t : Token ε) : Prop :=
  ∃ cause offset quoted, t = .broken cause offset quoted

namespace Json

open Text

variable {ε α : Type}

/-- The scanner reads no token over the end of a line. -/
def StaysOnLine (scan : Char → List Char → Token ε × Nat) : Prop :=
  ∀ c cs t n, scan c cs = (t, n) → ¬ t.IsBroken → Settles (fun ds => scan c ds = (t, n)) n cs

/-- The texts have the same tokens, as far as they have tokens. -/
inductive SameTokens : List (Lexeme ε) → List (Lexeme ε) → Prop
  | nil : SameTokens [] []
  | cons {l l' : Lexeme ε} {ls ls' : List (Lexeme ε)} (h : l.token = l'.token)
      (hs : SameTokens ls ls') : SameTokens (l :: ls) (l' :: ls')
  | broken {l l' : Lexeme ε} {ls ls' : List (Lexeme ε)} (h : l.token.IsBroken)
      (h' : l'.token.IsBroken) : SameTokens (l :: ls) (l' :: ls')

section Lexemes

variable {scan : Char → List Char → Token ε × Nat} {c : Char} {cs : List Char}

theorem not_isLineEnd_of_not_isBlank (h : ¬ isBlank c) : ¬ IsLineEnd c := by
  rintro (rfl | rfl) <;> exact h rfl

theorem lexemes_blank (hblank : isBlank c) (start : Nat) :
    lexemes scan start (c :: cs) = lexemes scan (start + 1) cs := by
  rw [lexemes, if_pos hblank]

theorem lexemes_mark {t : Token ε} (hblank : ¬ isBlank c) (hmark : mark? c = some t)
    (start : Nat) : lexemes scan start (c :: cs) = ⟨t, start⟩ :: lexemes scan (start + 1) cs := by
  rw [lexemes, if_neg hblank]
  simp only [hmark]

theorem lexemes_token {t : Token ε} {n : Nat} (hblank : ¬ isBlank c)
    (hmark : mark? (ε := ε) c = none) (hscan : scan c cs = (t, n)) (ht : ¬ t.IsBroken)
    (start : Nat) :
    lexemes scan start (c :: cs) = ⟨t, start⟩ :: lexemes scan (start + 1 + n) (cs.drop n) := by
  rw [lexemes, if_neg hblank]
  simp only [hmark, hscan]
  split
  next h => cases h; exact absurd ⟨_, _, _, rfl⟩ ht
  next h => cases h; rfl

theorem lexemes_broken (hblank : ¬ isBlank c) (hmark : mark? (ε := ε) c = none)
    (ht : (scan c cs).1.IsBroken) (start : Nat) :
    ∃ l : Lexeme ε, l.token.IsBroken ∧ lexemes scan start (c :: cs) = [l] := by
  rw [lexemes, if_neg hblank]
  obtain ⟨cause, offset, quoted, ht⟩ := ht
  refine ⟨⟨.broken cause offset quoted, start⟩, ⟨_, _, _, rfl⟩, ?_⟩
  generalize scan c cs = result at ht
  obtain ⟨t, n⟩ := result
  cases ht
  simp only [hmark]

theorem exists_lexemes_unifyNewlines_blank (hblank : isBlank c) (start : Nat) :
    ∃ stop, lexemes scan start (unifyNewlines (c :: cs)) =
      lexemes scan stop (unifyNewlines cs) := by
  by_cases hc : c = '\r'
  · rw [hc]
    rcases unifyNewlines_return cs with h | h
    · exact ⟨start + 1, by rw [h, lexemes_blank rfl]⟩
    · exact ⟨start, by rw [h]⟩
  · exact ⟨start + 1, by rw [unifyNewlines_cons hc, lexemes_blank hblank]⟩

/-- Uniform line ends change no token. -/
theorem sameTokens_unifyNewlines (hscan : StaysOnLine scan) (start start' : Nat)
    (cs : List Char) :
    SameTokens (lexemes scan start cs) (lexemes scan start' (unifyNewlines cs)) := by
  fun_induction lexemes scan start cs generalizing start' with
  | case1 =>
    rw [unifyNewlines, lexemes]
    exact .nil
  | case2 start c cs hblank ih =>
    obtain ⟨stop, hstop⟩ := exists_lexemes_unifyNewlines_blank hblank start'
    rw [hstop]
    exact ih stop
  | case3 start c cs hblank t ht ih =>
    have hc : c ≠ '\r' := fun hc => not_isLineEnd_of_not_isBlank hblank (.inl hc)
    rw [unifyNewlines_cons hc, lexemes_mark hblank ht]
    exact .cons rfl (ih _)
  | case4 start c cs hblank hmark cause offset quoted n hscanned =>
    have hc : c ≠ '\r' := fun hc => not_isLineEnd_of_not_isBlank hblank (.inl hc)
    rw [unifyNewlines_cons hc]
    -- A token of the other text would stand in this one too.
    have hbroken : (scan c (unifyNewlines cs)).1.IsBroken := by
      by_contra ht
      have hsame := (hscan c (unifyNewlines cs) _ _ rfl ht).of_unifyNewlines
      rw [← congrArg Prod.fst hsame, hscanned] at ht
      exact ht ⟨_, _, _, rfl⟩
    obtain ⟨l, hl, hlexemes⟩ := lexemes_broken hblank hmark hbroken start'
    rw [hlexemes]
    exact .broken ⟨_, _, _, rfl⟩ hl
  | case5 start c cs hblank hmark t n hbroken hscanned ih =>
    have hc : c ≠ '\r' := fun hc => not_isLineEnd_of_not_isBlank hblank (.inl hc)
    have ht : ¬ t.IsBroken := by
      rintro ⟨cause, offset, quoted, rfl⟩
      exact hbroken _ _ _ rfl
    obtain ⟨hsame, hdrop⟩ := (hscan c cs t n hscanned ht).unifyNewlines
    rw [unifyNewlines_cons hc, lexemes_token hblank hmark hsame ht, hdrop]
    exact .cons rfl (ih _)

end Lexemes

end Json

/-! ### Reading -/

namespace ReadState

variable {ε : Type} {limit : Option Nat} {s s' : ReadState} {l l' : Lexeme ε}

theorem beginValue_eq_ok_of_token_eq (h : l.token = l'.token) {outer : List Frame}
    (hs : s.beginValue outer l = .ok s') : s.beginValue outer l' = .ok s' := by
  rw [beginValue] at hs ⊢
  rw [h] at hs
  cases ht : l'.token <;> rw [ht] at hs <;> first | exact hs | cases hs

theorem beginKey_eq_ok_of_token_eq (h : l.token = l'.token) {fields : List (String × Document)}
    {outer : List Frame} (hs : s.beginKey fields outer l = .ok s') :
    s.beginKey fields outer l' = .ok s' := by
  rw [beginKey] at hs ⊢
  rw [h] at hs
  split at hs
  next => exact hs
  next => cases hs
  next => cases hs

/-- Where a token stands does not matter, unless it is refused. -/
theorem step_eq_ok_of_token_eq (h : l.token = l'.token) (hs : s.step limit l = .ok s') :
    s.step limit l' = .ok s' := by
  cases s with
  | start => exact beginValue_eq_ok_of_token_eq h hs
  | firstItem outer =>
    simp only [step] at hs ⊢
    rw [h] at hs
    split at hs
    next => exact hs
    next =>
      split_ifs at hs ⊢
      exact beginValue_eq_ok_of_token_eq h hs
  | nextItem items outer => exact beginValue_eq_ok_of_token_eq h hs
  | itemEnd items outer =>
    simp only [step] at hs ⊢
    rw [h] at hs
    split at hs
    next => exact hs
    next => exact hs
    next => cases hs
  | firstKey outer =>
    simp only [step] at hs ⊢
    rw [h] at hs
    split at hs
    next => exact hs
    next => exact beginKey_eq_ok_of_token_eq h hs
  | nextKey fields outer => exact beginKey_eq_ok_of_token_eq h hs
  | colon fields key outer =>
    simp only [step] at hs ⊢
    rw [h] at hs
    split at hs
    next =>
      split_ifs at hs ⊢
      exact hs
    next => cases hs
  | field fields key outer => exact beginValue_eq_ok_of_token_eq h hs
  | fieldEnd fields outer =>
    simp only [step] at hs ⊢
    rw [h] at hs
    split at hs
    next => exact hs
    next => exact hs
    next => cases hs
  | done v => cases hs

theorem step_ne_ok_of_isBroken (h : l.token.IsBroken) : s.step limit l ≠ .ok s' := by
  obtain ⟨cause, offset, quoted, h⟩ := h
  have hvalue (outer : List Frame) : s.beginValue outer l ≠ .ok s' := by
    simp [beginValue, h]
  have hkey (fields : List (String × Document)) (outer : List Frame) :
      s.beginKey fields outer l ≠ .ok s' := by
    cases quoted <;> simp [beginKey, h, refuse]
  cases s with
  | firstItem outer =>
    simp only [step, h]
    split_ifs <;> simp [hvalue]
  | start => exact hvalue _
  | nextItem => exact hvalue _
  | field => exact hvalue _
  | firstKey => simpa only [step, h] using hkey _ _
  | nextKey => exact hkey _ _
  | _ => simp [step, h, refuse]

end ReadState

namespace Json

open Text

variable {ε : Type} {limit : Option Nat} {ls ls' : List (Lexeme ε)}

namespace SameTokens

protected theorem symm (h : SameTokens ls ls') : SameTokens ls' ls := by
  induction h with
  | nil => exact .nil
  | cons h _ ih => exact .cons h.symm ih
  | broken h h' => exact .broken h' h

theorem foldlM_step (h : SameTokens ls ls') {s s' : ReadState}
    (hs : ls.foldlM (ReadState.step limit) s = .ok s') :
    ls'.foldlM (ReadState.step limit) s = .ok s' := by
  induction h generalizing s with
  | nil => exact hs
  | cons h _ ih =>
    rw [List.foldlM_cons] at hs ⊢
    obtain ⟨t, ht, hs⟩ := bind_eq_ok_iff.1 hs
    exact bind_eq_ok_iff.2 ⟨t, ReadState.step_eq_ok_of_token_eq h ht, ih hs⟩
  | broken h h' =>
    rw [List.foldlM_cons] at hs
    obtain ⟨t, ht, -⟩ := bind_eq_ok_iff.1 hs
    exact absurd ht (ReadState.step_ne_ok_of_isBroken h)

theorem ofLexemes_eq_ok (h : SameTokens ls ls') (length length' : Nat) {v : Document}
    (hv : ofLexemes limit length ls = .ok v) : ofLexemes limit length' ls' = .ok v := by
  obtain ⟨s, hs, hv⟩ := bind_eq_ok_iff.1 hv
  refine bind_eq_ok_iff.2 ⟨s, h.foldlM_step hs, ?_⟩
  cases s with
  | done w => exact hv
  | _ => cases hv

end SameTokens

/-! ### Scanning strings -/

/-- What is read of a text, behind `past` characters, is a piece of a line. -/
def ReadsPiece {δ α : Type} (past : Nat) (read : List Char → Except δ (α × Nat)) : Prop :=
  ∀ cs a n, read cs = .ok (a, n) →
    ∃ k, n = past + k ∧ Settles (fun ds => read ds = .ok (a, n)) k cs

theorem not_isLineEnd_of_hexDigit? {c : Char} {n : Nat} (h : hexDigit? c = some n) :
    ¬ IsLineEnd c := by
  rintro (rfl | rfl) <;> cases h

theorem take_of_hexFour {cs : List Char} {n : Nat} (h : hexFour cs = .ok n) :
    (cs.take 4).length = 4 ∧ ∀ c ∈ cs.take 4, ∃ k, hexDigit? c = some k := by
  simp only [hexFour] at h
  split at h
  next a b c d hds =>
    refine ⟨by simpa using congrArg List.length hds, fun x hx => Option.isSome_iff_exists.1 ?_⟩
    have hall : ((cs.take 4).map hexDigit?).all Option.isSome := by rw [hds]; rfl
    exact List.all_eq_true.1 hall _ (List.mem_map_of_mem hx)
  next => cases h

theorem settles_hexFour {cs : List Char} {n : Nat} (h : hexFour cs = .ok n) :
    Settles (fun ds => hexFour ds = .ok n) 4 cs := by
  obtain ⟨hlength, hdigits⟩ := take_of_hexFour h
  rw [← List.take_append_drop 4 cs]
  refine .of_append (fun c hc => ?_) hlength fun ds => ?_
  · obtain ⟨k, hk⟩ := hdigits c hc
    exact not_isLineEnd_of_hexDigit? hk
  · rw [← h, hexFour, hexFour, List.take_left' hlength]

theorem readsPiece_stringBody {rules : StringRules ε} (hrules : ReadsPiece 0 rules.escape)
    (offset : Nat) (taken : List Char) : ReadsPiece offset (stringBody rules offset taken) := by
  intro cs a n h
  fun_induction stringBody rules offset taken cs with
  | case1 => cases h
  | case2 offset taken cs =>
    cases h
    refine ⟨1, rfl, .of_append (w := ['"']) (by simp [IsLineEnd]) rfl fun ds => ?_⟩
    rw [List.singleton_append, stringBody, if_pos rfl]
  | case3 offset taken cs d k hescape hquote ih =>
    obtain ⟨i, rfl, hi⟩ := hrules cs d k hescape
    obtain ⟨j, rfl, hj⟩ := ih h
    rw [Nat.zero_add] at *
    refine ⟨i + j + 1, by omega, ((hi.seq hj).cons (by simp [IsLineEnd])).imp ?_⟩
    rintro _ ⟨ds, rfl, hds, hrest⟩
    rw [stringBody, if_neg hquote, if_pos rfl]
    simp only [hds, hrest]
  | case4 => cases h
  | case5 => cases h
  | case6 => cases h
  | case7 offset taken c cs hquote hslash hcontrol ih =>
    obtain ⟨j, rfl, hj⟩ := ih h
    have hc : ¬ IsLineEnd c := by
      rintro (rfl | rfl) <;> exact hcontrol (by decide)
    refine ⟨j + 1, by omega, (hj.cons hc).imp ?_⟩
    rintro _ ⟨ds, rfl, hds⟩
    rw [stringBody, if_neg hquote, if_neg hslash, if_neg hcontrol, hds]

namespace Strict

theorem hexUnit_eq_ok_iff {past n : Nat} {cs : List Char} :
    hexUnit past cs = .ok n ↔ hexFour cs = .ok n := by
  rw [hexUnit]
  constructor
  · intro h
    split_ifs at h
    split at h
    next hn => cases h; exact hn
    next => cases h
  · intro h
    have hlength : 4 ≤ cs.length := by
      have htake := (take_of_hexFour h).1
      rw [List.length_take] at htake
      omega
    have hsize : ¬ (String.ofList cs).utf8ByteSize < 4 :=
      Nat.not_lt.2 (hlength.trans (length_le_utf8ByteSize cs))
    rw [if_neg hsize, h]

theorem settles_hexUnit {past n : Nat} {cs : List Char} (h : hexUnit past cs = .ok n) :
    Settles (fun ds => hexUnit past ds = .ok n) 4 cs := by
  simp only [hexUnit_eq_ok_iff] at h ⊢
  exact settles_hexFour h

theorem readsPiece_hexEscape : ReadsPiece 1 hexEscape := by
  intro cs d n h
  obtain ⟨unit, hunit, h⟩ := bind_eq_ok_iff.1 h
  have hsettles := settles_hexUnit hunit
  split_ifs at h with hlow hhigh
  · split at h
    next => cases h
    next c es hes =>
      split_ifs at h with hc
      split at h
      next => cases h
      next c' fs =>
        split_ifs at h with hc'
        obtain ⟨other, hother, h⟩ := bind_eq_ok_iff.1 h
        split_ifs at h with hpair
        obtain ⟨rfl, rfl⟩ := Prod.mk.inj (Except.ok.inj h)
        rw [not_not] at hc hc'
        subst hc hc'
        have hrest := ((settles_hexUnit hother).cons (c := 'u') (by simp [IsLineEnd])).cons
          (c := '\\') (by simp [IsLineEnd])
        rw [← hes] at hrest
        refine ⟨4 + (4 + 1 + 1), rfl, (hsettles.seq hrest).imp ?_⟩
        rintro ds ⟨hds, _, hfirst, fs, rfl, hfs⟩
        simp [hexEscape, hds, hfirst, hfs, bind, Except.bind, hlow, hhigh, hpair]
  · cases h
    refine ⟨4, rfl, hsettles.imp fun ds hds => ?_⟩
    simp [hexEscape, hds, bind, Except.bind, hlow, hhigh]

theorem readsPiece_escape : ReadsPiece 0 escape := by
  intro cs d n h
  unfold escape at h
  split at h
  next => cases h
  next cs =>
    obtain ⟨k, rfl, hk⟩ := readsPiece_hexEscape cs d n h
    refine ⟨k + 1, by omega, (hk.cons (by simp [IsLineEnd])).imp ?_⟩
    rintro _ ⟨ds, rfl, hds⟩
    exact hds
  next c cs hu =>
    split at h
    next e he =>
      cases h
      have hc : ¬ IsLineEnd c := by
        rintro (rfl | rfl) <;> cases he
      refine ⟨1, rfl, .of_append (w := [c]) (by simpa using hc) rfl fun ds => ?_⟩
      rw [List.singleton_append, escape]
      · simp only [he]
      · exact hu
    next => cases h

/-! ### Scanning numbers -/

theorem isDigit_of_isLineEnd {c : Char} (h : IsLineEnd c) : Numeral.isDigit c = false := by
  rcases h with rfl | rfl <;> rfl

theorem someDigits_eq_ok_iff {past : Nat} {cs xs : List Char} :
    someDigits past cs = .ok xs ↔ cs.takeWhile Numeral.isDigit = xs ∧ xs ≠ [] := by
  cases cs with
  | nil => simp [someDigits]
  | cons c cs =>
    cases hc : Numeral.isDigit c with
    | true =>
      simp only [someDigits, hc, if_pos, List.takeWhile_cons, Except.ok.injEq]
      exact ⟨fun h => ⟨h, h ▸ List.cons_ne_nil _ _⟩, fun h => h.1⟩
    | false => simp [someDigits, hc]

theorem settles_someDigits {past : Nat} {cs xs : List Char} (h : someDigits past cs = .ok xs) :
    Settles (fun ds => someDigits past ds = .ok xs) xs.length cs := by
  obtain ⟨rfl, hne⟩ := someDigits_eq_ok_iff.1 h
  refine (settles_takeWhile (fun _ => isDigit_of_isLineEnd) cs).imp fun ds hds => ?_
  exact someDigits_eq_ok_iff.2 ⟨hds, hne⟩

theorem map_someDigits_eq_ok_iff {past : Nat} {cs : List Char} {f : List Char → α} {a : α} :
    (someDigits past cs).map f = .ok a ↔ ∃ xs, someDigits past cs = .ok xs ∧ f xs = a := by
  cases someDigits past cs <;> simp [Except.map]

theorem fraction_of_head? {past : Nat} {cs : List Char} (h : cs.head? ≠ some '.') :
    fraction past cs = .ok (none, 0) := by
  unfold fraction
  split
  next => exact absurd rfl h
  next => rfl

theorem readsPiece_fraction (past : Nat) : ReadsPiece 0 (fraction past) := by
  intro cs f n h
  by_cases hdot : cs.head? = some '.'
  · obtain ⟨cs, rfl⟩ := List.head?_eq_some_iff.1 hdot
    obtain ⟨xs, hxs, hf⟩ := map_someDigits_eq_ok_iff.1 h
    cases hf
    refine ⟨xs.length + 1, by omega, ((settles_someDigits hxs).cons (by simp [IsLineEnd])).imp ?_⟩
    rintro _ ⟨ds, rfl, hds⟩
    exact map_someDigits_eq_ok_iff.2 ⟨xs, hds, rfl⟩
  · rw [fraction_of_head? hdot] at h
    cases h
    refine ⟨0, rfl, .nil fun ds hds => fraction_of_head? ?_⟩
    rwa [ne_eq, head?_eq_some_iff_of_begins hds (by simp [IsLineEnd])]

theorem exponent_of_head? {past : Nat} {cs : List Char} (h : cs.head? ≠ some 'e')
    (h' : cs.head? ≠ some 'E') : exponent past cs = .ok (none, 0) := by
  unfold exponent
  split
  next c cs =>
    rw [if_neg]
    simpa using ⟨fun hc => h (hc ▸ rfl), fun hc => h' (hc ▸ rfl)⟩
  next => rfl

/-- The digits of an exponent may stand behind its letter at once. -/
theorem exponent_of_someDigits {past : Nat} {c : Char} {cs xs : List Char}
    (hc : (c = 'e' || c = 'E') = true) (h : someDigits (past + 1) cs = .ok xs) :
    exponent past (c :: cs) = .ok (some (false, xs), 1 + xs.length) := by
  simp only [exponent, if_pos hc]
  split
  next => cases h
  next => cases h
  next => exact map_someDigits_eq_ok_iff.2 ⟨xs, h, rfl⟩

/-- The digits of an exponent may stand behind its letter and a sign. -/
theorem settles_exponent_of_sign {past n : Nat} {c sign : Char} {cs : List Char} {negative : Bool}
    {e : Option (Bool × List Char)} (hline : ¬ IsLineEnd c) (hsign : ¬ IsLineEnd sign)
    (hexponent : ∀ ds, exponent past (c :: sign :: ds) =
      (someDigits (past + 2) ds).map fun xs => (some (negative, xs), 2 + xs.length))
    (h : exponent past (c :: sign :: cs) = .ok (e, n)) :
    Settles (fun ds => exponent past ds = .ok (e, n)) n (c :: sign :: cs) := by
  obtain ⟨xs, hxs, he⟩ := map_someDigits_eq_ok_iff.1 ((hexponent cs).symm.trans h)
  cases he
  have hpiece := ((settles_someDigits hxs).cons hsign).cons hline
  rw [Nat.add_comm 2]
  refine hpiece.imp ?_
  rintro _ ⟨_, rfl, ds, rfl, hds⟩
  rw [hexponent]
  exact map_someDigits_eq_ok_iff.2 ⟨xs, hds, by rw [Nat.add_comm]⟩

theorem readsPiece_exponent (past : Nat) : ReadsPiece 0 (exponent past) := by
  intro cs e n h
  by_cases hletter : cs.head? = some 'e' ∨ cs.head? = some 'E'
  · obtain ⟨c, cs, hc, hline, rfl⟩ :
        ∃ c es, (c = 'e' || c = 'E') = true ∧ ¬ IsLineEnd c ∧ cs = c :: es := by
      rcases hletter with hletter | hletter
      · obtain ⟨es, rfl⟩ := List.head?_eq_some_iff.1 hletter
        exact ⟨_, es, rfl, by simp [IsLineEnd], rfl⟩
      · obtain ⟨es, rfl⟩ := List.head?_eq_some_iff.1 hletter
        exact ⟨_, es, rfl, by simp [IsLineEnd], rfl⟩
    have hdigits := h
    simp only [exponent, if_pos hc] at hdigits
    split at hdigits
    next cs =>
      exact ⟨n, (Nat.zero_add n).symm, settles_exponent_of_sign hline (by simp [IsLineEnd])
        (fun ds => by rw [exponent, if_pos hc]) h⟩
    next cs =>
      exact ⟨n, (Nat.zero_add n).symm, settles_exponent_of_sign hline (by simp [IsLineEnd])
        (fun ds => by rw [exponent, if_pos hc]) h⟩
    next =>
      obtain ⟨xs, hxs, he⟩ := map_someDigits_eq_ok_iff.1 hdigits
      cases he
      refine ⟨xs.length + 1, by omega, ((settles_someDigits hxs).cons hline).imp ?_⟩
      rintro _ ⟨ds, rfl, hds⟩
      exact exponent_of_someDigits hc hds
  · rw [not_or] at hletter
    rw [exponent_of_head? hletter.1 hletter.2] at h
    cases h
    refine ⟨0, rfl, .nil fun ds hds => exponent_of_head? ?_ ?_⟩
    · rw [ne_eq, head?_eq_some_iff_of_begins hds (by simp [IsLineEnd])]
      exact hletter.1
    · rw [ne_eq, head?_eq_some_iff_of_begins hds (by simp [IsLineEnd])]
      exact hletter.2

theorem readsPiece_number (negative : Bool) (past : Nat) :
    ReadsPiece past (number negative past) := by
  intro cs v n h
  obtain ⟨whole, hwhole, h⟩ := bind_eq_ok_iff.1 h
  split_ifs at h with hzero hhuge
  obtain ⟨⟨f, i⟩, hf, h⟩ := bind_eq_ok_iff.1 h
  obtain ⟨⟨e, j⟩, he, h⟩ := bind_eq_ok_iff.1 h
  obtain ⟨rfl, rfl⟩ := Prod.mk.inj (Except.ok.inj h)
  obtain ⟨i, rfl, hi⟩ := readsPiece_fraction _ _ _ _ hf
  obtain ⟨j, rfl, hj⟩ := readsPiece_exponent _ _ _ _ he
  simp only [Nat.zero_add] at *
  -- The three parts follow each other, each from where the one before it ends.
  have hdigits := (settles_someDigits hwhole).seq hi
  refine ⟨whole.length + i + j, by omega, (hdigits.seq hj).imp ?_⟩
  rintro ds ⟨⟨hds, hdsf⟩, hdse⟩
  simp only [number, hds, hdsf, hdse, bind, Except.bind, if_neg hzero, if_neg hhuge]

theorem settles_constant (past : Nat) {n : Nat} {v : Document} {word cs : List Char}
    {t : Token Cause} (hword : ∀ c ∈ word, ¬ IsLineEnd c)
    (h : constant (past + 1) v word cs = (t, n)) (ht : ¬ t.IsBroken) :
    ∃ k, n = past + k ∧ Settles (fun ds => constant (past + 1) v word ds = (t, n)) k cs := by
  induction word generalizing past cs with
  | nil =>
    cases h
    exact ⟨0, rfl, .nil fun ds _ => rfl⟩
  | cons w word ih =>
    rw [List.forall_mem_cons] at hword
    cases cs with
    | nil =>
      cases h
      exact absurd ⟨_, _, _, rfl⟩ ht
    | cons c cs =>
      rw [constant] at h
      split_ifs at h with hc
      · obtain ⟨k, rfl, hk⟩ := ih (past + 1) hword.2 h
        rw [hc]
        refine ⟨k + 1, by omega, (hk.cons hword.1).imp ?_⟩
        rintro _ ⟨ds, rfl, hds⟩
        rw [constant, if_pos rfl, hds]
      · cases h
        exact absurd ⟨_, _, _, rfl⟩ ht

theorem settles_scanString {cs : List Char} {n : Nat} {t : Token Cause}
    (h : scanString stringRules cs = (t, n)) (ht : ¬ t.IsBroken) :
    Settles (fun ds => scanString stringRules ds = (t, n)) n cs := by
  rw [scanString] at h
  split at h
  next s length hs =>
    obtain ⟨k, rfl, hk⟩ := readsPiece_stringBody readsPiece_escape 1 [] cs s length hs
    cases h
    rw [Nat.add_sub_cancel_left]
    refine hk.imp fun ds hds => ?_
    rw [scanString, hds]
    exact congrArg _ (Nat.add_sub_cancel_left 1 k)
  next =>
    cases h
    exact absurd ⟨_, _, _, rfl⟩ ht

/-- Numbers start with a digit and have a length. -/
theorem number_eq_ok {negative : Bool} {past n : Nat} {cs : List Char} {v : Document}
    (h : number negative past cs = .ok (v, n)) :
    (∃ c es, cs = c :: es ∧ Numeral.isDigit c = true) ∧ past < n := by
  obtain ⟨whole, hwhole, h⟩ := bind_eq_ok_iff.1 h
  split_ifs at h
  obtain ⟨⟨f, i⟩, -, h⟩ := bind_eq_ok_iff.1 h
  obtain ⟨⟨e, j⟩, -, h⟩ := bind_eq_ok_iff.1 h
  obtain ⟨rfl, rfl⟩ := Prod.mk.inj (Except.ok.inj h)
  obtain ⟨htake, hne⟩ := someDigits_eq_ok_iff.1 hwhole
  have hlength := List.length_pos_of_ne_nil hne
  refine ⟨?_, by omega⟩
  cases cs with
  | nil => exact absurd htake.symm hne
  | cons c es =>
    refine ⟨c, es, rfl, ?_⟩
    by_contra hc
    rw [List.takeWhile_cons_of_neg hc] at htake
    exact hne htake.symm

theorem settles_numberToken {negative : Bool} {past n : Nat} {cs : List Char} {t : Token Cause}
    (h : numberToken (number negative past cs) = (t, n)) (ht : ¬ t.IsBroken) :
    ∃ k, n + 1 = past + k ∧ 0 < k ∧ Settles (fun ds => (∃ c es, ds = c :: es ∧
      Numeral.isDigit c = true) ∧ numberToken (number negative past ds) = (t, n)) k cs := by
  cases hcs : number negative past cs with
  | error fault =>
    rw [hcs] at h
    cases h
    exact absurd ⟨_, _, _, rfl⟩ ht
  | ok result =>
    obtain ⟨v, length⟩ := result
    rw [hcs] at h
    cases h
    obtain ⟨k, rfl, hk⟩ := readsPiece_number negative past cs v length hcs
    have hpos := (number_eq_ok hcs).2
    exact ⟨k, by omega, by omega, hk.imp fun ds hds => ⟨(number_eq_ok hds).1, by rw [hds]; rfl⟩⟩

theorem scan_of_isDigit {c : Char} (h : Numeral.isDigit c = true) (cs : List Char) :
    scan c cs = numberToken (number false 0 (c :: cs)) := by
  unfold scan
  split
  case h_8 => rw [if_pos h]
  all_goals cases h

theorem scan_minus_of_isDigit {c : Char} (h : Numeral.isDigit c = true) (cs : List Char) :
    scan '-' (c :: cs) = numberToken (number true 1 (c :: cs)) := by
  simp only [scan]
  split
  next heq =>
    cases heq
    cases h
  next => rfl

/-- No token of a file goes over the end of a line. -/
theorem staysOnLine_scan : StaysOnLine scan := by
  intro c cs t n h ht
  have hconstant {v : Document} {word : List Char} (hword : ∀ c ∈ word, ¬ IsLineEnd c)
      (h : constant 1 v word cs = (t, n)) :
      Settles (fun ds => constant 1 v word ds = (t, n)) n cs := by
    obtain ⟨k, hn, hk⟩ := settles_constant 0 hword h ht
    rw [Nat.zero_add] at hn
    exact hn ▸ hk
  unfold scan at h
  split at h
  next => exact settles_scanString h ht
  case h_7 =>
    split at h
    next cs =>
      obtain ⟨k, rfl, hk⟩ := settles_constant 1 (by simp [IsLineEnd]) h ht
      rw [Nat.add_comm 1 k] at h ⊢
      refine (hk.cons (by simp [IsLineEnd])).imp ?_
      rintro _ ⟨ds, rfl, hds⟩
      rwa [Nat.add_comm 1 k] at hds
    next =>
      obtain ⟨k, hn, -, hk⟩ := settles_numberToken h ht
      obtain rfl : n = k := by omega
      refine hk.imp ?_
      rintro _ ⟨⟨d, es, rfl, hd⟩, hds⟩
      rw [scan_minus_of_isDigit hd, hds]
  case h_8 =>
    split_ifs at h with hdigit
    · obtain ⟨k, hn, -, hk⟩ := settles_numberToken h ht
      obtain rfl : k = n + 1 := by omega
      refine hk.tail.imp fun ds hds => ?_
      rw [scan_of_isDigit hdigit, hds.2]
    · cases h
      exact absurd ⟨_, _, _, rfl⟩ ht
  all_goals exact hconstant (by simp [IsLineEnd]) h

/-- **How line ends are written does not matter.** A text spells the same value, if it spells one,
when all its line ends are line feeds. -/
theorem read_withLineFeeds_eq_ok_iff {text : String} {v : Document} :
    read (Text.withLineFeeds text) = .ok v ↔ read text = .ok v := by
  have hsame := sameTokens_unifyNewlines staysOnLine_scan 0 0 text.toList
  rw [read, read, readChars, readChars, withLineFeeds, String.toList_ofList]
  exact ⟨hsame.symm.ofLexemes_eq_ok _ _, hsame.ofLexemes_eq_ok _ _⟩

end Strict

end Json

end ClassDiagram
