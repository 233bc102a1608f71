import ClassDiagram.Text.Console
import Mathlib.Data.List.TakeWhile
import Mathlib.Tactic.SplitIfs

/-!
# Messages that a console shows as they are

A console may change a message. It shows it as it is exactly if there is nothing in it to obey, no
tab, and no name of a picture between two colons.

* `Console.Names` says which names a console finds in a text, from left to right;
* `Console.scan_induction` goes through a text as the search for names does;
* `Console.withPictures_eq_self_iff` and `Console.withoutTabs_eq_self` say what the steps leave
  alone;
* `Console.shown_eq_iff` puts these together.
-/

namespace ClassDiagram.Console

/-! ### Names in a text -/

/-- Every character may stand in a name. -/
def IsName (n : List Char) : Prop := ∀ c ∈ n, isNameChar c = true

/-- A text begins with a name and the colon behind it. -/
def StartsWithName (cs : List Char) : Prop := ∃ n rest, IsName n ∧ cs = n ++ ':' :: rest

/-- A name stands between two colons of a text. Both colons belong to this name alone: the search
goes on behind the second one. -/
inductive Names (n : List Char) : List Char → Prop where
  | here {cs : List Char} (hn : IsName n) : Names n (':' :: (n ++ ':' :: cs))
  | behind {m cs : List Char} (hm : IsName m) (h : Names n cs) : Names n (':' :: (m ++ ':' :: cs))
  | unclosed {cs : List Char} (hcs : ¬ StartsWithName cs) (h : Names n cs) : Names n (':' :: cs)
  | other {c : Char} {cs : List Char} (hc : c ≠ ':') (h : Names n cs) : Names n (c :: cs)

/-- A console neither obeys the character nor widens it. -/
def IsInert (c : Char) : Prop := isControl c = false ∧ c ≠ '\t'

instance (c : Char) : Decidable (IsInert c) := inferInstanceAs (Decidable (_ ∧ _))

/-- A console leaves the text alone: there is no character to obey and no tab in it, and no name of
a picture between two colons. -/
structure Plain (cs : List Char) : Prop where
  inert : ∀ c ∈ cs, IsInert c
  no_picture : ∀ n, Names n cs → picture? n = none

variable {c : Char} {cs n m p : List Char}

theorem takeWhile_name (hn : IsName n) (cs : List Char) :
    (n ++ ':' :: cs).takeWhile isNameChar = n := by
  rw [List.takeWhile_append_of_pos hn, List.takeWhile_cons_of_neg (by decide), List.append_nil]

theorem name_append_inj {cs' : List Char} (hn : IsName n) (hm : IsName m)
    (h : n ++ ':' :: cs = m ++ ':' :: cs') : n = m ∧ cs = cs' := by
  have hnm := congrArg (List.takeWhile isNameChar) h
  rw [takeWhile_name hn, takeWhile_name hm] at hnm
  subst hnm
  exact ⟨rfl, (List.cons.inj (List.append_cancel_left h)).2⟩

theorem startsWithName_of_drop {rest : List Char}
    (h : cs.drop (cs.takeWhile isNameChar).length = ':' :: rest) : StartsWithName cs := by
  refine ⟨cs.takeWhile isNameChar, rest, fun c hc => List.mem_takeWhile_imp hc, ?_⟩
  rw [← h]
  exact (List.prefix_iff_eq_append.1 (List.takeWhile_prefix isNameChar)).symm

theorem names_name_iff (hm : IsName m) :
    Names n (':' :: (m ++ ':' :: cs)) ↔ n = m ∨ Names n cs := by
  constructor
  · intro h
    generalize htext : ':' :: (m ++ ':' :: cs) = text at h
    cases h with
    | here hn =>
      exact .inl (name_append_inj hm hn (List.cons.inj htext).2).1.symm
    | behind hm' h =>
      exact .inr ((name_append_inj hm hm' (List.cons.inj htext).2).2 ▸ h)
    | unclosed hcs => exact absurd ⟨m, cs, hm, (List.cons.inj htext).2.symm⟩ hcs
    | other hc => exact absurd (List.cons.inj htext).1.symm hc
  · rintro (rfl | h)
    · exact .here hm
    · exact .behind hm h

theorem names_unclosed_iff (hcs : ¬ StartsWithName cs) : Names n (':' :: cs) ↔ Names n cs := by
  constructor
  · intro h
    generalize htext : ':' :: cs = text at h
    cases h with
    | here hn => exact absurd ⟨n, _, hn, (List.cons.inj htext).2⟩ hcs
    | behind hm => exact absurd ⟨_, _, hm, (List.cons.inj htext).2⟩ hcs
    | unclosed _ h => exact (List.cons.inj htext).2 ▸ h
    | other hc => exact absurd (List.cons.inj htext).1.symm hc
  · exact .unclosed hcs

theorem names_other_iff (hc : c ≠ ':') : Names n (c :: cs) ↔ Names n cs := by
  constructor
  · intro h
    cases h with
    | other _ h => exact h
    | _ => exact absurd rfl hc
  · exact .other hc

theorem not_names_nil : ¬ Names n [] := nofun

/-- A text is searched character by character, and name by name. -/
@[elab_as_elim]
theorem scan_induction {motive : List Char → Prop} (nil : motive [])
    (other : ∀ c cs, c ≠ ':' → motive cs → motive (c :: cs))
    (name : ∀ n cs, IsName n → motive cs → motive (':' :: (n ++ ':' :: cs)))
    (unclosed : ∀ cs, ¬ StartsWithName cs → motive cs → motive (':' :: cs)) :
    ∀ cs, motive cs
  | [] => nil
  | c :: cs => by
    by_cases hc : c = ':'
    · by_cases hcs : StartsWithName cs
      · obtain ⟨n, rest, hn, rfl⟩ := hcs
        exact hc ▸ name n rest hn (scan_induction nil other name unclosed rest)
      · exact hc ▸ unclosed cs hcs (scan_induction nil other name unclosed cs)
    · exact other c cs hc (scan_induction nil other name unclosed cs)
termination_by cs => cs.length

/-! ### Pictures -/

theorem withPictures_other (hc : c ≠ ':') : withPictures (c :: cs) = c :: withPictures cs := by
  rw [withPictures, if_neg hc]

theorem withPictures_name (hn : IsName n) :
    withPictures (':' :: (n ++ ':' :: cs)) =
      (picture? n).getD (':' :: n ++ [':']) ++ withPictures cs := by
  rw [withPictures, if_pos rfl]
  have hrest : (n ++ ':' :: cs).drop (n.length + 1) = cs := by
    rw [← List.drop_drop, List.drop_left, List.drop_one, List.tail_cons]
  simp only [takeWhile_name hn, List.drop_left, hrest]

theorem withPictures_unclosed (h : ¬ StartsWithName cs) :
    withPictures (':' :: cs) = ':' :: withPictures cs := by
  rw [withPictures, if_pos rfl]
  simp only
  split
  next hdrop => exact absurd (startsWithName_of_drop hdrop) h
  next => rfl

/-- A picture is neither empty nor a text for a console to change, and has no colon in it. -/
def IsPicture (p : List Char) : Prop := p ≠ [] ∧ ∀ c ∈ p, c ≠ ':' ∧ IsInert c

instance (p : List Char) : Decidable (IsPicture p) :=
  -- The characters of the picture are to be tried, and not all that there are.
  have : Decidable (∀ c ∈ p, c ≠ ':' ∧ IsInert c) := List.decidableBAll _ p
  inferInstanceAs (Decidable (_ ∧ _))

theorem isPicture_of_mem_pages : ∀ page ∈ pages, ∀ e ∈ page.2, IsPicture e.2 := by
  decide +kernel

theorem isPicture_of_named? (h : named? n = some p) : IsPicture p := by
  obtain ⟨page, hpage, h⟩ := Option.bind_eq_some_iff.1 h
  obtain ⟨e, he, h⟩ := Option.bind_eq_some_iff.1 h
  cases h
  exact isPicture_of_mem_pages page (List.mem_of_find?_eq_some hpage) e
    (List.mem_of_find?_eq_some he)

/-- The character of a variant may follow any picture. -/
theorem IsPicture.append {marks : List Char} (h : IsPicture p)
    (hmarks : ∀ c ∈ marks, c ≠ ':' ∧ IsInert c) : IsPicture (p ++ marks) := by
  refine ⟨List.append_ne_nil_of_left_ne_nil h.1 marks, fun c hc => ?_⟩
  exact (List.mem_append.1 hc).elim (h.2 c) (hmarks c)

theorem isInert_of_variant? {mark : Char} (h : variant? n = some (m, mark)) :
    mark ≠ ':' ∧ IsInert mark := by
  have hvariants : ∀ v ∈ variants, v.2 ≠ ':' ∧ IsInert v.2 := by decide
  obtain ⟨⟨ending, v⟩, hv, h⟩ := List.exists_of_findSome?_eq_some h
  simp only at h
  split_ifs at h
  exact (Prod.mk.inj (Option.some.inj h)).2 ▸ hvariants _ hv

theorem isPicture_of_picture? (h : picture? n = some p) : IsPicture p := by
  rw [picture?] at h
  cases hv : variant? n with
  | none =>
    simp only [hv] at h
    obtain ⟨q, hq, rfl⟩ := Option.map_eq_some_iff.1 h
    exact (isPicture_of_named? hq).append (by simp)
  | some v =>
    obtain ⟨base, mark⟩ := v
    simp only [hv] at h
    obtain ⟨q, hq, rfl⟩ := Option.map_eq_some_iff.1 h
    exact (isPicture_of_named? hq).append (by simpa using isInert_of_variant? hv)

/-- A text keeps its pictures' names if and only if it has none. -/
theorem withPictures_eq_self_iff :
    withPictures cs = cs ↔ ∀ n, Names n cs → picture? n = none := by
  induction cs using scan_induction with
  | nil => simp [withPictures, not_names_nil]
  | other c cs hc ih => simp [withPictures_other hc, names_other_iff hc, ih]
  | unclosed cs hcs ih => simp [withPictures_unclosed hcs, names_unclosed_iff hcs, ih]
  | name m cs hm ih =>
    simp only [names_name_iff hm, forall_eq_or_imp, ← ih]
    rw [withPictures_name hm]
    cases h : picture? m with
    | none => simp
    | some p =>
      -- The text begins with the picture, and no longer with a colon.
      refine iff_of_false (fun heq => ?_) (by simp)
      obtain ⟨hne, hp⟩ := isPicture_of_picture? h
      obtain ⟨c, rest, rfl⟩ := List.exists_cons_of_ne_nil hne
      exact (hp c List.mem_cons_self).1 (List.cons.inj heq).1

theorem mem_of_mem_withPictures (hc : c ∈ withPictures cs) :
    c ∈ cs ∨ IsInert c := by
  induction cs using scan_induction with
  | nil => simp [withPictures] at hc
  | other d cs hd ih =>
    rw [withPictures_other hd, List.mem_cons] at hc
    rcases hc with rfl | hc
    · exact .inl List.mem_cons_self
    · exact (ih hc).imp_left (List.mem_cons_of_mem d)
  | unclosed cs hcs ih =>
    rw [withPictures_unclosed hcs, List.mem_cons] at hc
    rcases hc with rfl | hc
    · exact .inl List.mem_cons_self
    · exact (ih hc).imp_left (List.mem_cons_of_mem ':')
  | name n cs hn ih =>
    rw [withPictures_name hn, List.mem_append] at hc
    rcases hc with hc | hc
    · cases h : picture? n with
      | none =>
        rw [h, Option.getD_none] at hc
        exact .inl (by grind)
      | some p =>
        rw [h] at hc
        exact .inr ((isPicture_of_picture? h).2 c hc).2
    · exact (ih hc).imp_left fun h => by simp [h]

/-! ### Control characters and tabs -/

theorem mem_withoutTabs {column : Nat} (hc : c ∈ withoutTabs column cs) :
    c ≠ '\t' ∧ (c ∈ cs ∨ c = ' ') := by
  fun_induction withoutTabs column cs with
  | case1 => simp at hc
  | case2 _ cs ih =>
    rcases List.mem_cons.1 hc with rfl | hc
    · exact ⟨by decide, .inl List.mem_cons_self⟩
    · exact (ih hc).imp_right (.imp_left (List.mem_cons_of_mem _))
  | case3 _ cs _ spaces ih =>
    rcases List.mem_append.1 hc with hc | hc
    · rw [List.eq_of_mem_replicate hc]
      exact ⟨by decide, .inr rfl⟩
    · exact (ih hc).imp_right (.imp_left (List.mem_cons_of_mem _))
  | case4 _ d cs _ hd ih =>
    rcases List.mem_cons.1 hc with rfl | hc
    · exact ⟨hd, .inl List.mem_cons_self⟩
    · exact (ih hc).imp_right (.imp_left (List.mem_cons_of_mem d))

theorem withoutTabs_eq_self {column : Nat} (h : '\t' ∉ cs) : withoutTabs column cs = cs := by
  fun_induction withoutTabs column cs with
  | case1 => rfl
  | case2 _ cs ih => rw [ih (List.not_mem_of_not_mem_cons h)]
  | case3 => exact absurd List.mem_cons_self h
  | case4 _ d cs _ hd ih => rw [ih (List.not_mem_of_not_mem_cons h)]

/-! ### Messages -/

theorem isInert_of_mem_shown (hc : c ∈ withoutTabs 0 (withoutControls cs)) : IsInert c := by
  obtain ⟨htab, hc | rfl⟩ := mem_withoutTabs hc
  · exact ⟨by simpa using (List.mem_filter.1 hc).2, htab⟩
  · decide

theorem withoutTabs_withoutControls (h : ∀ c ∈ cs, IsInert c) :
    withoutTabs 0 (withoutControls cs) = cs := by
  have hcontrols : withoutControls cs = cs :=
    List.filter_eq_self.2 fun c hc => by simp [(h c hc).1]
  rw [hcontrols, withoutTabs_eq_self fun hc => (h _ hc).2 rfl]

/-- **A console shows a message as it is exactly if there is nothing to change in it**: nothing to
obey, no tab, and no name of a picture. -/
theorem shown_eq_iff {message : String} :
    shown message = message ++ "\n" ↔ Plain message.toList := by
  have hshown : shown message = message ++ "\n" ↔
      withoutTabs 0 (withoutControls (withPictures message.toList)) = message.toList := by
    rw [shown, String.append_left_inj, ← String.toList_inj, String.toList_ofList]
  rw [hshown]
  constructor
  · intro h
    -- What gets through is inert, so that the message is, and then its text with pictures.
    have hinert : ∀ c ∈ message.toList, IsInert c := fun c hc => isInert_of_mem_shown (h ▸ hc)
    have hpictures : ∀ c ∈ withPictures message.toList, IsInert c :=
      fun c hc => (mem_of_mem_withPictures hc).elim (hinert c) id
    rw [withoutTabs_withoutControls hpictures] at h
    exact ⟨hinert, withPictures_eq_self_iff.1 h⟩
  · intro h
    rw [withPictures_eq_self_iff.2 h.no_picture]
    exact withoutTabs_withoutControls h.inert

/-- Brackets and lone colons stay, names of pictures and tabs do not. -/
example : (shown "[red]a:smile [/red]", shown ":Smile:", shown ":+1-text:", shown "a\tb") =
    ("[red]a:smile [/red]\n", "😄\n", "👍\uFE0E\n", "a       b\n") := by
  decide +kernel

end ClassDiagram.Console
