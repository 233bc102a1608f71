import ClassDiagram.Text.Utf8
import ClassDiagram.Proofs.Check.Outcome

/-!
# Bytes that are texts

Reading bytes as a text accepts exactly the bytes that a text is written as, and gives this text
back.

* `Utf8.encode_ofList` writes a text character by character;
* `Utf8.continuation_of_encodeChar` reads a written character, `Utf8.encodeChar_of_continuation`
  writes a character that was read;
* `Utf8.decode_eq_ok_iff` puts these together for whole texts.
-/

namespace ClassDiagram.Utf8

open String (utf8EncodeChar)

/-! ### Writing -/

theorem toList_loop (bs : ByteArray) (i : Nat) (r : List UInt8) :
    ByteArray.toList.loop bs i r = r.reverse ++ bs.data.toList.drop i := by
  fun_induction ByteArray.toList.loop bs i r with
  | case1 i r hi ih =>
    have hi' : i < bs.data.toList.length := by simpa using hi
    rw [ih, List.drop_eq_getElem_cons hi']
    simp [ByteArray.get!, getElem!_pos bs.data i (by simpa using hi)]
  | case2 i r hi =>
    have hi' : bs.data.toList.length ≤ i := by simpa using hi
    rw [List.drop_eq_nil_of_le hi', List.append_nil]

theorem encode_ofList (cs : List Char) : encode (String.ofList cs) = cs.flatMap utf8EncodeChar := by
  rw [encode, String.toUTF8_eq_toByteArray, String.toByteArray_ofList, ByteArray.toList,
    toList_loop, List.utf8Encode]
  simp

/-! ### First and following bytes -/

section Bytes

variable {b : UInt8} {bs : List UInt8} {lead : Lead} {least greatest : UInt8}
  {bits good count code : Nat}

/-- What a first byte of a given number says. Some bounds are tighter: they rule out longer forms
than needed, surrogates, and codes beyond the last character. -/
inductive Lead.Says (n : Nat) : Lead → Prop where
  | one (h : n < 0x80) : Says n ⟨0, 0x80, 0xBF, n⟩
  | two (h : 0xC2 ≤ n ∧ n < 0xE0) : Says n ⟨1, 0x80, 0xBF, n - 0xC0⟩
  | three {least greatest : UInt8} (h : 0xE0 ≤ n ∧ n < 0xF0)
      (hl : n = 0xE0 ∧ least.toNat = 0xA0 ∨ n ≠ 0xE0 ∧ least.toNat = 0x80)
      (hg : n = 0xED ∧ greatest.toNat = 0x9F ∨ n ≠ 0xED ∧ greatest.toNat = 0xBF) :
      Says n ⟨2, least, greatest, n - 0xE0⟩
  | four {least greatest : UInt8} (h : 0xF0 ≤ n ∧ n < 0xF5)
      (hl : n = 0xF0 ∧ least.toNat = 0x90 ∨ n ≠ 0xF0 ∧ least.toNat = 0x80)
      (hg : n = 0xF4 ∧ greatest.toNat = 0x8F ∨ n ≠ 0xF4 ∧ greatest.toNat = 0xBF) :
      Says n ⟨3, least, greatest, n - 0xF0⟩

/-- What a first byte says is said by its number, and numbers from 0xC2 to 0xF4 and below 0x80
say something. -/
theorem lead?_cases (b : UInt8) :
    (∃ lead, lead? false b = some lead ∧ lead.Says b.toNat) ∨
      lead? false b = none ∧ (0x80 ≤ b.toNat ∧ b.toNat < 0xC2 ∨ 0xF5 ≤ b.toNat) := by
  simp only [lead?, UInt8.lt_iff_toNat_lt, ← UInt8.toNat_inj, UInt8.reduceToNat]
  generalize b.toNat = n
  split
  · exact .inl ⟨_, rfl, .one ‹_›⟩
  split
  · exact .inr ⟨rfl, by omega⟩
  split
  · exact .inl ⟨_, rfl, .two (by omega)⟩
  split
  · refine .inl ⟨_, rfl, .three (by omega) ?_ ?_⟩
    · by_cases h : n = 0xE0 <;> simp [h]
    · by_cases h : n = 0xED <;> simp [h]
  split
  · refine .inl ⟨_, rfl, .four (by omega) ?_ ?_⟩
    · by_cases h : n = 0xF0 <;> simp [h]
    · by_cases h : n = 0xF4 <;> simp [h]
  · exact .inr ⟨rfl, by omega⟩

theorem says_of_lead? (h : lead? false b = some lead) : lead.Says b.toNat := by
  rcases lead?_cases b with ⟨lead', h', hsays⟩ | ⟨hnone, -⟩
  · cases h.symm.trans h'
    exact hsays
  · cases h.symm.trans hnone

theorem toNat_ofNat {n : Nat} (h : n < 256) : (UInt8.ofNat n).toNat = n :=
  UInt8.toNat_ofNat_of_lt' h

theorem exists_lead? {n : Nat} (h : n < 0x80 ∨ 0xC2 ≤ n ∧ n < 0xF5) :
    ∃ lead, lead? false (UInt8.ofNat n) = some lead ∧ lead.Says n := by
  have hn : (UInt8.ofNat n).toNat = n := toNat_ofNat (by omega)
  rcases lead?_cases (UInt8.ofNat n) with hlead | ⟨-, hnone⟩
  · rwa [hn] at hlead
  · omega

theorem continuation_zero : continuation 0 least greatest bits good bs = .ok bits := by
  rw [continuation]

/-- One more byte follows, within its bounds. -/
theorem continuation_succ_eq_ok_iff :
    continuation (count + 1) least greatest bits good bs = .ok code ↔
      ∃ b tail, bs = b :: tail ∧ (least.toNat ≤ b.toNat ∧ b.toNat ≤ greatest.toNat) ∧
        continuation count 0x80 0xBF (bits * 64 + (b.toNat - 0x80)) (good + 1) tail = .ok code := by
  cases bs with
  | nil => simp [continuation]
  | cons b tail =>
    rw [continuation]
    split_ifs with h
    · simp only [Bool.and_eq_true, decide_eq_true_eq, UInt8.le_iff_toNat_le] at h
      simp [h]
    · simp only [Bool.and_eq_true, decide_eq_true_eq, UInt8.le_iff_toNat_le] at h
      simpa using fun h₁ h₂ => absurd ⟨h₁, h₂⟩ h

/-! ### Characters -/

/-- A written byte that follows holds six more bits. -/
theorem continuation_ofNat {n : Nat} (hn : n < 64) (hl : least.toNat ≤ n + 128)
    (hg : n + 128 ≤ greatest.toNat) :
    continuation (count + 1) least greatest bits good (UInt8.ofNat (n + 128) :: bs) =
      continuation count 0x80 0xBF (bits * 64 + n) (good + 1) bs := by
  have hbyte : (UInt8.ofNat (n + 128)).toNat = n + 128 := toNat_ofNat (by omega)
  have hbounds : (least ≤ UInt8.ofNat (n + 128) && UInt8.ofNat (n + 128) ≤ greatest) = true := by
    simp only [Bool.and_eq_true, decide_eq_true_eq, UInt8.le_iff_toNat_le, hbyte]
    exact ⟨hl, hg⟩
  rw [continuation, if_pos hbounds, hbyte, Nat.add_sub_cancel]

theorem continuation_ofNat_plain {n : Nat} (hn : n < 64) :
    continuation (count + 1) 0x80 0xBF bits good (UInt8.ofNat (n + 128) :: bs) =
      continuation count 0x80 0xBF (bits * 64 + n) (good + 1) bs :=
  continuation_ofNat hn (Nat.le_add_left 128 n) (by simp only [UInt8.reduceToNat]; omega)

/-- A written character is read as its code, whatever follows it. -/
theorem continuation_of_encodeChar (c : Char) (rest : List UInt8) :
    ∃ b tail lead, utf8EncodeChar c = b :: tail ∧ lead? false b = some lead ∧
      tail.length = lead.following ∧
      continuation lead.following lead.least lead.greatest lead.bits 0 (tail ++ rest) =
        .ok c.toNat := by
  have hc : c.toNat < 0xD800 ∨ 0xDFFF < c.toNat ∧ c.toNat < 0x110000 := c.valid
  have hv : c.val.toNat = c.toNat := rfl
  rw [utf8EncodeChar, hv]
  generalize c.toNat = v at hc
  -- One case for each length. The bounds of the first byte that follows hold because the code is
  -- that of a character, and is not written longer than needed.
  split_ifs with h1 h2 h3
  · obtain ⟨lead, h, hsays⟩ := exists_lead? (n := v) (by omega)
    refine ⟨_, _, lead, rfl, h, ?_⟩
    cases hsays with
    | one => exact ⟨rfl, continuation_zero⟩
    | _ => omega
  · obtain ⟨lead, h, hsays⟩ := exists_lead? (n := v / 64 % 32 + 192) (by omega)
    refine ⟨_, _, lead, rfl, h, ?_⟩
    cases hsays with
    | two =>
      refine ⟨rfl, ?_⟩
      dsimp only
      rw [List.cons_append, continuation_ofNat_plain (by omega), continuation_zero]
      exact congrArg Except.ok (by omega)
    | _ => omega
  · obtain ⟨lead, h, hsays⟩ := exists_lead? (n := v / 4096 % 16 + 224) (by omega)
    refine ⟨_, _, lead, rfl, h, ?_⟩
    cases hsays with
    | three =>
      refine ⟨rfl, ?_⟩
      dsimp only
      rw [List.cons_append, List.cons_append, continuation_ofNat (by omega) (by omega) (by omega),
        continuation_ofNat_plain (by omega), continuation_zero]
      exact congrArg Except.ok (by omega)
    | _ => omega
  · obtain ⟨lead, h, hsays⟩ := exists_lead? (n := v / 262144 % 8 + 240) (by omega)
    refine ⟨_, _, lead, rfl, h, ?_⟩
    cases hsays with
    | four =>
      refine ⟨rfl, ?_⟩
      dsimp only
      rw [List.cons_append, List.cons_append, List.cons_append,
        continuation_ofNat (by omega) (by omega) (by omega),
        continuation_ofNat_plain (by omega), continuation_ofNat_plain (by omega),
        continuation_zero]
      exact congrArg Except.ok (by omega)
    | _ => omega

theorem ofNat_eq {n : Nat} (h : n = b.toNat) : UInt8.ofNat n = b := by
  rw [h, UInt8.ofNat_toNat]

theorem exists_char (code : Nat) (h : code < 0xD800 ∨ 0xDFFF < code ∧ code < 0x110000) :
    ∃ c : Char, c.toNat = code :=
  ⟨Char.ofNat code, by rw [Char.ofNat, dif_pos h]; rfl⟩

/-- The bytes of a character that is read are those that it is written as. -/
theorem encodeChar_of_continuation (hlead : lead? false b = some lead)
    (hcode : continuation lead.following lead.least lead.greatest lead.bits 0 bs = .ok code) :
    ∃ c : Char, c.toNat = code ∧ b :: bs = utf8EncodeChar c ++ bs.drop lead.following := by
  have hsays := says_of_lead? hlead
  -- The bounds of the bytes say that the code is that of a character, and how long it is.
  cases hsays with
  | one h =>
    rw [continuation_zero] at hcode
    cases hcode
    obtain ⟨c, hc⟩ := exists_char b.toNat (by omega)
    refine ⟨c, hc, ?_⟩
    rw [utf8EncodeChar, show c.val.toNat = b.toNat from hc]
    simp only
    rw [if_pos (by omega), ofNat_eq rfl]
    rfl
  | two h =>
    obtain ⟨b₁, rest, rfl, h₁, hcode⟩ := continuation_succ_eq_ok_iff.1 hcode
    simp only [UInt8.reduceToNat] at h₁
    rw [continuation_zero] at hcode
    have hcode := Except.ok.inj hcode
    dsimp only at hcode
    obtain ⟨c, hc⟩ := exists_char code (by omega)
    refine ⟨c, hc, ?_⟩
    rw [utf8EncodeChar, show c.val.toNat = code from hc]
    simp only
    rw [if_neg (by omega), if_pos (by omega), ofNat_eq (b := b) (by omega),
      ofNat_eq (b := b₁) (by omega)]
    rfl
  | three h hl hg =>
    obtain ⟨b₁, _, rfl, h₁, hcode⟩ := continuation_succ_eq_ok_iff.1 hcode
    obtain ⟨b₂, rest, rfl, h₂, hcode⟩ := continuation_succ_eq_ok_iff.1 hcode
    simp only [UInt8.reduceToNat] at h₁ h₂
    rw [continuation_zero] at hcode
    have hcode := Except.ok.inj hcode
    dsimp only at hcode
    obtain ⟨c, hc⟩ := exists_char code (by omega)
    refine ⟨c, hc, ?_⟩
    rw [utf8EncodeChar, show c.val.toNat = code from hc]
    simp only
    rw [if_neg (by omega), if_neg (by omega), if_pos (by omega), ofNat_eq (b := b) (by omega),
      ofNat_eq (b := b₁) (by omega), ofNat_eq (b := b₂) (by omega)]
    rfl
  | four h hl hg =>
    obtain ⟨b₁, _, rfl, h₁, hcode⟩ := continuation_succ_eq_ok_iff.1 hcode
    obtain ⟨b₂, _, rfl, h₂, hcode⟩ := continuation_succ_eq_ok_iff.1 hcode
    obtain ⟨b₃, rest, rfl, h₃, hcode⟩ := continuation_succ_eq_ok_iff.1 hcode
    simp only [UInt8.reduceToNat] at h₁ h₂ h₃
    rw [continuation_zero] at hcode
    have hcode := Except.ok.inj hcode
    dsimp only at hcode
    obtain ⟨c, hc⟩ := exists_char code (by omega)
    refine ⟨c, hc, ?_⟩
    rw [utf8EncodeChar, show c.val.toNat = code from hc]
    simp only
    rw [if_neg (by omega), if_neg (by omega), if_neg (by omega), ofNat_eq (b := b) (by omega),
      ofNat_eq (b := b₁) (by omega), ofNat_eq (b := b₂) (by omega), ofNat_eq (b := b₃) (by omega)]
    rfl

end Bytes

/-! ### Texts -/

variable {bs : List UInt8} {cs : List Char} {s : String} {start : Nat}

theorem charOfCode_toNat (c : Char) : Text.charOfCode c.toNat = c := by
  have hc : c.toNat < 0xD800 ∨ 0xDFFF < c.toNat ∧ c.toNat < 0x110000 := c.valid
  have hno : ¬ (Text.isHighSurrogate c.toNat || Text.isLowSurrogate c.toNat) = true := by
    simp only [Text.isHighSurrogate, Text.isLowSurrogate, Bool.or_eq_true, Bool.and_eq_true,
      decide_eq_true_eq]
    omega
  rw [Text.charOfCode, if_neg hno, Char.ofNat_toNat]

/-- A text is read from the bytes that its characters are written as, and from no others. -/
theorem decodeFrom_eq_ok_iff :
    decodeFrom false start bs = .ok cs ↔ bs = cs.flatMap utf8EncodeChar := by
  constructor
  · intro h
    fun_induction decodeFrom false start bs generalizing cs with
    | case1 => cases h; rfl
    | case2 => cases h
    | case3 => cases h
    | case4 start b bs lead hlead code hcode ih =>
      obtain ⟨c, hc, hbytes⟩ := encodeChar_of_continuation hlead hcode
      cases hrest : decodeFrom false (start + 1 + lead.following) (bs.drop lead.following) with
      | error fault => rw [hrest] at h; cases h
      | ok rest =>
        rw [hrest] at h
        cases h
        rw [hbytes, ih hrest, ← hc, charOfCode_toNat, List.flatMap_cons]
  · rintro rfl
    induction cs generalizing start with
    | nil => simp [decodeFrom]
    | cons c cs ih =>
      obtain ⟨b, tail, lead, hbytes, hlead, hlength, hcode⟩ :=
        continuation_of_encodeChar c (cs.flatMap utf8EncodeChar)
      rw [List.flatMap_cons, hbytes, List.cons_append, decodeFrom, hlead]
      simp only
      rw [hcode]
      simp only
      rw [← hlength, List.drop_left, charOfCode_toNat, ih]
      rfl

/-- **Bytes are read as a text if and only if the text is written as these bytes.** -/
theorem decode_eq_ok_iff : decode bs = .ok s ↔ encode s = bs := by
  obtain ⟨cs, rfl⟩ : ∃ cs, s = String.ofList cs := ⟨s.toList, String.ofList_toList.symm⟩
  rw [encode_ofList, decode]
  constructor
  · intro h
    cases hread : decodeFrom false 0 bs with
    | error fault => rw [hread] at h; cases h
    | ok read =>
      rw [hread] at h
      obtain rfl := String.ofList_injective (Except.ok.inj h)
      exact (decodeFrom_eq_ok_iff.1 hread).symm
  · intro h
    rw [decodeFrom_eq_ok_iff.2 h.symm]
    rfl

end ClassDiagram.Utf8
