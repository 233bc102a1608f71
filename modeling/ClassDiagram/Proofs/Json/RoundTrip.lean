import ClassDiagram.Json.Writer
import ClassDiagram.Proofs.Json.Depth
import Mathlib.Data.List.Nodup

/-!
# Reading what was written

Both readers read a written document back, whatever strings it has. That is stated for documents
without numbers, and the reader of files bounds how deep they are.

* `Json.Regular` says that a document has no numbers and no key twice in one object;
* `StringRules.Unescapes` and `Json.Scans` say what the two scanners have in common;
* `Json.ReadsTo` says that some characters lead a reader from one state to another one, whatever
  follows them;
* `Json.Strict.read_text` and `Json.Lenient.read_text` are the results.
-/

namespace ClassDiagram

namespace Json

/-! ### Characters of strings -/

theorem writeChar_escaped_or (c : Char) :
    (∃ w, writeChar c = '\\' :: w) ∨
      writeChar c = [c] ∧ c ≠ '"' ∧ c ≠ '\\' ∧ ¬ c.toNat < 0x20 := by
  unfold writeChar
  split_ifs with hquote hslash hcontrol
  · exact .inl ⟨_, rfl⟩
  · exact .inl ⟨_, rfl⟩
  · exact .inl ⟨_, rfl⟩
  · exact .inr ⟨rfl, hquote, hslash, hcontrol⟩

theorem hexDigit?_hexDigitChar : ∀ d < 16, hexDigit? (hexDigitChar d) = some d := by decide

/-- The digits of the code of a control character. -/
theorem hexFour_control {n : Nat} (hn : n < 0x20) (cs : List Char) :
    hexFour ('0' :: '0' :: hexDigitChar (n / 16) :: hexDigitChar (n % 16) :: cs) = .ok n := by
  have hhigh := hexDigit?_hexDigitChar (n / 16) (by omega)
  have hlow := hexDigit?_hexDigitChar (n % 16) (by omega)
  have hzero : hexDigit? '0' = some 0 := rfl
  simp only [hexFour, List.take_succ_cons, List.take_zero, List.map_cons, List.map_nil, hzero,
    hhigh, hlow]
  congr 1
  omega

end Json

/-- An escape sequence that was written is read as its character. -/
def Json.StringRules.Unescapes {ε : Type} (rules : Json.StringRules ε) : Prop :=
  ∀ c w, Json.writeChar c = '\\' :: w → ∀ cs ≠ [], rules.escape (w ++ cs) = .ok (c, w.length)

namespace Json

variable {ε : Type}

theorem stringBody_write {rules : StringRules ε} (hrules : rules.Unescapes) (cs chars : List Char)
    (offset : Nat) (taken : List Char) :
    stringBody rules offset taken (chars.flatMap writeChar ++ '"' :: cs) =
      .ok (String.ofList (taken.reverse ++ chars),
        offset + (chars.flatMap writeChar).length + 1) := by
  induction chars generalizing offset taken with
  | nil => simp [stringBody]
  | cons c chars ih =>
    -- One step takes one character, whether that was written with an escape sequence or not.
    have htaken : (c :: taken).reverse ++ chars = taken.reverse ++ c :: chars := by simp
    rw [List.flatMap_cons, List.append_assoc, List.length_append]
    rcases writeChar_escaped_or c with ⟨w, hw⟩ | ⟨hc, hquote, hslash, hcontrol⟩
    · have hescape := hrules c w hw (chars.flatMap writeChar ++ '"' :: cs) (by simp)
      have hne : '\\' ≠ '"' := by decide
      have hlength : offset + 1 + w.length + (chars.flatMap writeChar).length + 1 =
          offset + ((w.length + 1) + (chars.flatMap writeChar).length) + 1 := by omega
      rw [hw, List.cons_append, stringBody, if_neg hne, if_pos rfl]
      simp only [hescape, List.drop_left, ih, htaken, hlength, List.length_cons]
    · have hlength : offset + 1 + (chars.flatMap writeChar).length + 1 =
          offset + (1 + (chars.flatMap writeChar).length) + 1 := by omega
      rw [hc, List.singleton_append, stringBody, if_neg hquote, if_neg hslash, if_neg hcontrol, ih,
        htaken, hlength, List.length_singleton]

/-! ### Escape sequences of the two readers -/

/-- The escape sequences that are written. -/
theorem writeChar_cases {c : Char} {w : List Char} (h : writeChar c = '\\' :: w) :
    (c = '"' ∧ w = ['"']) ∨ (c = '\\' ∧ w = ['\\']) ∨
      (c.toNat < 0x20 ∧
        w = ['u', '0', '0', hexDigitChar (c.toNat / 16), hexDigitChar (c.toNat % 16)]) := by
  unfold writeChar at h
  split_ifs at h with hquote hslash hcontrol
  · exact .inl ⟨hquote, (List.cons.inj h).2.symm⟩
  · exact .inr (.inl ⟨hslash, (List.cons.inj h).2.symm⟩)
  · exact .inr (.inr ⟨hcontrol, (List.cons.inj h).2.symm⟩)
  · exact absurd (List.cons.inj h).1 hslash

theorem not_surrogate {n : Nat} (hn : n < 0x20) :
    Text.isLowSurrogate n = false ∧ Text.isHighSurrogate n = false := by
  simp only [Text.isLowSurrogate, Text.isHighSurrogate, Bool.and_eq_false_iff,
    decide_eq_false_iff_not]
  omega

theorem length_le_utf8ByteSize (cs : List Char) :
    cs.length ≤ (String.ofList cs).utf8ByteSize := by
  induction cs with
  | nil => exact Nat.zero_le _
  | cons c cs ih =>
    have hc := c.utf8Size_pos
    rw [String.ofList_cons, String.utf8ByteSize_append, String.utf8ByteSize_singleton,
      List.length_cons]
    omega

theorem Strict.unescapes : Strict.stringRules.Unescapes := by
  intro c w hw cs hcs
  rcases writeChar_cases hw with ⟨rfl, rfl⟩ | ⟨rfl, rfl⟩ | ⟨hc, rfl⟩
  · rfl
  · rfl
  · have hsize : ¬ (String.ofList ('0' :: '0' :: hexDigitChar (c.toNat / 16) ::
        hexDigitChar (c.toNat % 16) :: cs)).utf8ByteSize < 4 := by
      have hlength := length_le_utf8ByteSize ('0' :: '0' :: hexDigitChar (c.toNat / 16) ::
        hexDigitChar (c.toNat % 16) :: cs)
      simp only [List.length_cons] at hlength
      omega
    obtain ⟨hlow, hhigh⟩ := not_surrogate hc
    simp only [Strict.stringRules, Strict.escape, List.cons_append, List.nil_append,
      Strict.hexEscape, Strict.hexUnit, if_neg hsize, hexFour_control hc]
    simp [bind, Except.bind, hlow, hhigh]

theorem Lenient.unescapes : Lenient.stringRules.Unescapes := by
  intro c w hw cs hcs
  rcases writeChar_cases hw with ⟨rfl, rfl⟩ | ⟨rfl, rfl⟩ | ⟨hc, rfl⟩
  · rfl
  · rfl
  · have hlength : ¬ ('0' :: '0' :: hexDigitChar (c.toNat / 16) ::
        hexDigitChar (c.toNat % 16) :: cs).length ≤ 4 := by
      have := List.length_pos_iff.2 hcs
      simp only [List.length_cons]
      omega
    obtain ⟨hlow, hhigh⟩ := not_surrogate hc
    simp only [Lenient.stringRules, Lenient.escape, List.cons_append, List.nil_append,
      Lenient.hexEscape, if_neg hlength, hexFour_control hc]
    simp [Text.charOfCode, hlow, hhigh]

/-! ### Tokens -/

/-- What a scanner makes of the words for constants and of strings that were written. -/
structure Scans (scan : Char → List Char → Token ε × Nat) : Prop where
  null : ∀ cs, scan 'n' ("ull".toList ++ cs) = (.literal .null, 3)
  isTrue : ∀ cs, scan 't' ("rue".toList ++ cs) = (.literal (.bool true), 3)
  isFalse : ∀ cs, scan 'f' ("alse".toList ++ cs) = (.literal (.bool false), 4)
  string : ∀ s cs, scan '"' (s.toList.flatMap writeChar ++ ['"'] ++ cs) =
    (.str s, (s.toList.flatMap writeChar ++ ['"']).length)

theorem scanString_write {rules : StringRules ε} (hrules : rules.Unescapes) (s : String)
    (cs : List Char) : scanString rules (s.toList.flatMap writeChar ++ ['"'] ++ cs) =
      (.str s, (s.toList.flatMap writeChar ++ ['"']).length) := by
  rw [scanString, List.append_assoc, List.singleton_append, stringBody_write hrules,
    List.reverse_nil, List.nil_append, String.ofList_toList, List.length_append,
    List.length_singleton]
  simp only [Nat.add_sub_cancel, Nat.add_comm 1]

theorem Strict.scans : Scans Strict.scan where
  null _ := rfl
  isTrue _ := rfl
  isFalse _ := rfl
  string := scanString_write Strict.unescapes

theorem Lenient.scans : Scans Lenient.scan where
  null _ := rfl
  isTrue _ := rfl
  isFalse _ := rfl
  string := scanString_write Lenient.unescapes

/-! ### Reading on -/

section Reading

variable {scan : Char → List Char → Token ε × Nat} {limit : Option Nat} {s s' s'' : ReadState}
  {outer : List Frame}

variable (scan limit) in
/-- The characters lead from one state to another one, whatever follows them. -/
def ReadsTo (w : List Char) (s s' : ReadState) : Prop :=
  ∀ start cs, ∃ start', (lexemes scan start (w ++ cs)).foldlM (ReadState.step limit) s =
    (lexemes scan start' cs).foldlM (ReadState.step limit) s'

namespace ReadsTo

theorem nil : ReadsTo scan limit [] s s := fun start _ => ⟨start, rfl⟩

theorem append {w w' : List Char} (h : ReadsTo scan limit w s s')
    (h' : ReadsTo scan limit w' s' s'') : ReadsTo scan limit (w ++ w') s s'' := by
  intro start cs
  obtain ⟨mid, h⟩ := h start (w' ++ cs)
  obtain ⟨stop, h'⟩ := h' mid cs
  exact ⟨stop, by rw [List.append_assoc, h, h']⟩

theorem mark {c : Char} {t : Token ε} (hc : mark? (ε := ε) c = some t) (hblank : isBlank c = false)
    (hstep : ∀ start, s.step limit ⟨t, start⟩ = .ok s') : ReadsTo scan limit [c] s s' := by
  intro start cs
  refine ⟨start + 1, ?_⟩
  rw [List.singleton_append, lexemes]
  simp only [hblank, hc]
  rw [if_neg Bool.false_ne_true, List.foldlM_cons, hstep]
  rfl

theorem token {c : Char} {w : List Char} {t : Token ε}
    (hscan : ∀ cs, scan c (w ++ cs) = (t, w.length)) (hc : mark? (ε := ε) c = none)
    (hblank : isBlank c = false) (ht : ∀ cause offset quoted, t ≠ .broken cause offset quoted)
    (hstep : ∀ start, s.step limit ⟨t, start⟩ = .ok s') : ReadsTo scan limit (c :: w) s s' := by
  intro start cs
  refine ⟨start + 1 + w.length, ?_⟩
  rw [List.cons_append, lexemes]
  simp only [hblank, hc, hscan]
  rw [if_neg Bool.false_ne_true, List.drop_left, List.foldlM_cons, hstep]
  rfl

end ReadsTo

/-! ### Values -/

variable (ε limit) in
/-- A value may begin in the state, inside the given containers. -/
def Awaits (s : ReadState) (outer : List Frame) : Prop :=
  ∀ l : Lexeme ε, l.token ≠ .closeArray → s.step limit l = s.beginValue outer l

theorem awaits_start : Awaits ε limit .start [] := fun _ _ => rfl

theorem awaits_nextItem (items : List Document) :
    Awaits ε limit (.nextItem items outer) (.array items :: outer) := fun _ _ => rfl

theorem awaits_field (fields : List (String × Document)) (key : String) :
    Awaits ε limit (.field fields key outer) (.object fields key :: outer) := fun _ _ => rfl

theorem awaits_firstItem (h : ReadState.isFull limit outer = false) :
    Awaits ε limit (.firstItem outer) (.array [] :: outer) := by
  intro l hl
  simp only [ReadState.step, h]
  exact if_neg Bool.false_ne_true

/-- There are no numbers in the document, and no object has a key twice. -/
inductive Regular : Document → Prop where
  | null : Regular .null
  | bool (b : Bool) : Regular (.bool b)
  | str (s : String) : Regular (.str s)
  | array {vs : List Document} (items : ∀ v ∈ vs, Regular v) : Regular (.array vs)
  | object {fields : List (String × Document)} (keys : (fields.map Prod.fst).Nodup)
      (values : ∀ f ∈ fields, Regular f.2) : Regular (.object fields)

/-- A document of this depth fits into containers of this number. -/
def Fits (limit : Option Nat) (outer : List Frame) (depth : Nat) : Prop :=
  ∀ n ∈ limit, outer.length + depth ≤ n

variable (scan limit) in
/-- Wherever a value may begin, the written document is read. -/
def Readable (v : Document) : Prop :=
  ∀ {s : ReadState} {outer : List Frame}, Awaits ε limit s outer → Fits limit outer v.depth →
    ReadsTo scan limit (write v) s (ReadState.complete v outer)

theorem ReadsTo.literal {c : Char} {w : List Char} {v : Document}
    (hscan : ∀ cs, scan c (w ++ cs) = (.literal v, w.length)) (hc : mark? (ε := ε) c = none)
    (hblank : isBlank c = false) (h : Awaits ε limit s outer) :
    ReadsTo scan limit (c :: w) s (ReadState.complete v outer) :=
  .token hscan hc hblank (by simp) fun start => by
    rw [h _ (by simp)]
    rfl

theorem ReadsTo.string (hscan : Scans scan) (x : String)
    (hstep : ∀ start, s.step limit (⟨.str x, start⟩ : Lexeme ε) = .ok s') :
    ReadsTo scan limit (writeString x) s s' :=
  .token (hscan.string x) rfl rfl (by simp) hstep

/-! ### Containers -/

theorem Fits.inner {d e : Nat} (h : Fits limit outer d) (he : e + 1 ≤ d) (f : Frame) :
    Fits limit (f :: outer) e := by
  intro n hn
  have := h n hn
  rw [List.length_cons]
  omega

theorem Fits.not_full {d : Nat} (h : Fits limit outer d) (hd : 1 ≤ d) :
    ReadState.isFull limit outer = false := by
  cases limit with
  | none => rfl
  | some n =>
    have := h n rfl
    exact ReadState.isFull_eq_false_iff.2 (by omega)

theorem readsTo_writeMoreItems {vs : List Document} (hvs : ∀ v ∈ vs, Readable scan limit v)
    {d : Nat} (hfits : Fits limit outer d) (hd : ∀ v ∈ vs, v.depth + 1 ≤ d)
    (items : List Document) : ReadsTo scan limit (writeMoreItems vs) (.itemEnd items outer)
      (.itemEnd (vs.reverse ++ items) outer) := by
  induction vs generalizing items with
  | nil => exact .nil
  | cons v vs ih =>
    rw [List.forall_mem_cons] at hvs hd
    have hcomma : ReadsTo scan limit [','] (.itemEnd items outer) (.nextItem items outer) :=
      .mark rfl rfl fun _ => rfl
    have hv := hvs.1 (awaits_nextItem items) (hfits.inner hd.1 _)
    rw [List.reverse_cons, List.append_assoc]
    exact (hcomma.append hv).append (ih hvs.2 hd.2 (v :: items))

theorem readable_array {vs : List Document} (hvs : ∀ v ∈ vs, Readable scan limit v) :
    Readable scan limit (.array vs) := by
  intro s outer hs hfits
  have hopen : ReadsTo scan limit ['['] s (.firstItem outer) :=
    .mark rfl rfl fun _ => by
      rw [hs _ (by simp)]
      rfl
  cases vs with
  | nil =>
    have hclose : ReadsTo scan limit [']'] (.firstItem outer) (.complete (.array []) outer) :=
      .mark rfl rfl fun _ => rfl
    exact hopen.append hclose
  | cons v vs =>
    have hd := depth_array_le_iff.1 (Nat.le_refl (array (v :: vs)).depth)
    rw [List.forall_mem_cons] at hvs hd
    -- Because of its first item, the array lies inside fewer containers than the limit.
    have hfull := hfits.not_full (Nat.le_of_add_left_le hd.1)
    have hv := hvs.1 (awaits_firstItem hfull) (hfits.inner hd.1 _)
    have hmore := readsTo_writeMoreItems hvs.2 hfits hd.2 [v]
    have hclose : ReadsTo scan limit [']'] (.itemEnd (vs.reverse ++ [v]) outer)
        (.complete (.array (vs.reverse ++ [v]).reverse) outer) :=
      .mark rfl rfl fun _ => rfl
    rw [List.reverse_append, List.reverse_reverse] at hclose
    exact (hopen.append (hv.append hmore)).append hclose

theorem put_of_notMem {k : String} {v : Document} {fields : List (String × Document)}
    (hk : k ∉ fields.map Prod.fst) : put k v fields = fields ++ [(k, v)] := by
  induction fields with
  | nil => rfl
  | cons f fields ih =>
    obtain ⟨l, w⟩ := f
    rw [List.map_cons, List.mem_cons, not_or] at hk
    rw [put, if_neg (Ne.symm hk.1), ih hk.2, List.cons_append]

/-- A field that was written is read, where a key may begin. -/
theorem readsTo_field (hscan : Scans scan) {k : String} {v : Document}
    {fields : List (String × Document)} (hv : Readable scan limit v) {d : Nat}
    (hfits : Fits limit outer d) (hd : v.depth + 1 ≤ d)
    (hkey : ∀ start, s.step limit (⟨.str k, start⟩ : Lexeme ε) = .ok (.colon fields k outer))
    (hk : k ∉ fields.map Prod.fst) :
    ReadsTo scan limit (writeString k ++ ':' :: write v) s
      (.fieldEnd (fields ++ [(k, v)]) outer) := by
  have hfull := hfits.not_full (Nat.le_of_add_left_le hd)
  have hcolon : ReadsTo scan limit [':'] (.colon fields k outer) (.field fields k outer) :=
    .mark rfl rfl fun _ => by
      simp only [ReadState.step, hfull, Bool.and_false]
      exact if_neg Bool.false_ne_true
  have hvalue := hv (awaits_field fields k) (hfits.inner hd _)
  rw [ReadState.complete, put_of_notMem hk] at hvalue
  exact (ReadsTo.string hscan k hkey).append (hcolon.append hvalue)

theorem readsTo_writeMoreFields (hscan : Scans scan) {more : List (String × Document)}
    (hmore : ∀ f ∈ more, Readable scan limit f.2) {d : Nat} (hfits : Fits limit outer d)
    (hd : ∀ f ∈ more, f.2.depth + 1 ≤ d) (fields : List (String × Document))
    (hkeys : ((fields ++ more).map Prod.fst).Nodup) :
    ReadsTo scan limit (writeMoreFields more) (.fieldEnd fields outer)
      (.fieldEnd (fields ++ more) outer) := by
  induction more generalizing fields with
  | nil =>
    rw [List.append_nil]
    exact .nil
  | cons f more ih =>
    obtain ⟨k, v⟩ := f
    rw [List.forall_mem_cons] at hmore hd
    rw [List.append_cons] at hkeys ⊢
    -- The key is new, so that the field comes behind the ones that were read.
    have hk : k ∉ fields.map Prod.fst := by
      rw [List.map_append, List.map_append, List.append_assoc] at hkeys
      have hdisjoint := List.disjoint_of_nodup_append hkeys
      exact fun hmem => hdisjoint hmem List.mem_cons_self
    have hcomma : ReadsTo scan limit [','] (.fieldEnd fields outer) (.nextKey fields outer) :=
      .mark rfl rfl fun _ => rfl
    have hfield := readsTo_field hscan hmore.1 hfits hd.1 (s := .nextKey fields outer)
      (fun _ => rfl) hk
    have hrest := ih hmore.2 hd.2 (fields ++ [(k, v)]) hkeys
    exact (hcomma.append hfield).append hrest

theorem readable_object (hscan : Scans scan) {fields : List (String × Document)}
    (hkeys : (fields.map Prod.fst).Nodup) (hfields : ∀ f ∈ fields, Readable scan limit f.2) :
    Readable scan limit (.object fields) := by
  intro s outer hs hfits
  have hopen : ReadsTo scan limit ['\x7b'] s (.firstKey outer) :=
    .mark rfl rfl fun _ => by
      rw [hs _ (by simp)]
      rfl
  cases fields with
  | nil =>
    have hclose : ReadsTo scan limit ['\x7d'] (.firstKey outer) (.complete (.object []) outer) :=
      .mark rfl rfl fun _ => rfl
    exact hopen.append hclose
  | cons f fields =>
    obtain ⟨k, v⟩ := f
    have hd := depth_object_le_iff.1 (Nat.le_refl (object ((k, v) :: fields)).depth)
    rw [List.forall_mem_cons] at hfields hd
    have hfield := readsTo_field hscan (k := k) hfields.1 hfits hd.1 (s := .firstKey outer)
      (fun _ => rfl) List.not_mem_nil
    have hmore := readsTo_writeMoreFields hscan hfields.2 hfits hd.2 [(k, v)] hkeys
    have hclose : ReadsTo scan limit ['\x7d'] (.fieldEnd ((k, v) :: fields) outer)
        (.complete (.object ((k, v) :: fields)) outer) :=
      .mark rfl rfl fun _ => rfl
    exact (hopen.append (hfield.append hmore)).append hclose

/-! ### Documents -/

theorem readable (hscan : Scans scan) {v : Document} (hv : Regular v) : Readable scan limit v := by
  induction hv with
  | null => exact fun hs _ => .literal hscan.null rfl rfl hs
  | bool b =>
    cases b with
    | true => exact fun hs _ => .literal hscan.isTrue rfl rfl hs
    | false => exact fun hs _ => .literal hscan.isFalse rfl rfl hs
  | str x =>
    exact fun hs _ => .string hscan x fun _ => by
      rw [hs _ (by simp)]
      rfl
  | array _ ih => exact readable_array ih
  | object hkeys _ ih => exact readable_object hscan hkeys ih

theorem ofLexemes_write (hscan : Scans scan) {v : Document} (hv : Regular v)
    (hdepth : ∀ n ∈ limit, v.depth ≤ n) (length : Nat) :
    ofLexemes limit length (lexemes scan 0 (write v)) = .ok v := by
  have hfits : Fits limit [] v.depth := by
    intro n hn
    simpa using hdepth n hn
  obtain ⟨stop, h⟩ := readable hscan hv awaits_start hfits 0 []
  rw [List.append_nil] at h
  rw [ofLexemes, h, lexemes]
  rfl

end Reading

/-- A written document that is not too deep is read back from a file. -/
theorem Strict.read_text {v : Document} (hv : Regular v) (hdepth : v.depth ≤ nestingLimit) :
    Strict.read (Document.text v) = .ok v := by
  rw [Strict.read, Document.text, String.toList_ofList]
  exact ofLexemes_write Strict.scans hv (by simpa using hdepth) _

/-- A written document is read back from a request. -/
theorem Lenient.read_text {v : Document} (hv : Regular v) :
    Lenient.read (Document.text v) = .ok v := by
  rw [Lenient.read, Document.text, String.toList_ofList]
  exact ofLexemes_write Lenient.scans hv (by simp) _

end Json

end ClassDiagram
