import ClassDiagram.Proofs.Diagram.Block
import ClassDiagram.Proofs.Text.Division

/-!
# What a diagram tells

A diagram is a plain text, and only the indentation and a few words structure it. If names do not
interfere with those, then nothing of what is shown gets lost: the text determines the blocks that
it was put together from.

* `Model.IsLegible` says that the names of a model do not interfere;
* `Line.writtenAll_inj` recovers the lines from a text, `Block.lines_inj` a block from its lines;
* `Model.blocks_eq_of_render_eq` recovers the blocks of a model from its diagram.
-/

namespace ClassDiagram

/-! ### Legible names -/

/-- The characters that structure a diagram. -/
def structureChars : List Char := [' ', '\n', '\x7b', '\x7d', '(', ')', '$', '<', '|']

/-- A name without characters that structure a diagram. It may be empty. -/
def IsPlainName (s : String) : Prop := ∀ c ∈ structureChars, c ∉ s.toList

/-- A text on one line. -/
def IsOneLine (s : String) : Prop := '\n' ∉ s.toList

instance (s : String) : Decidable (IsPlainName s) :=
  List.decidableBAll (fun c => c ∉ s.toList) structureChars

instance (s : String) : Decidable (IsOneLine s) := inferInstanceAs (Decidable (¬ _))

/-- The names of a type, of its members and of the types that it is related to are plain, and the
types of its members stand on one line. -/
structure TypeSymbol.IsLegible (t : TypeSymbol) : Prop where
  name : IsPlainName t.name
  members : ∀ m ∈ t.members, IsPlainName m.name ∧ IsOneLine m.typeName
  interfaces : ∀ i ∈ t.interfaces, IsPlainName i.name
  base : ∀ b ∈ t.base, IsPlainName b.name

/-- All types of a model are legible. -/
def Model.IsLegible (m : Model) : Prop := ∀ t ∈ m.types, t.IsLegible

instance (t : TypeSymbol) : Decidable t.IsLegible :=
  decidable_of_iff (IsPlainName t.name ∧
      (∀ m ∈ t.members, IsPlainName m.name ∧ IsOneLine m.typeName) ∧
      (∀ i ∈ t.interfaces, IsPlainName i.name) ∧ ∀ b ∈ t.base, IsPlainName b.name)
    ⟨fun h => ⟨h.1, h.2.1, h.2.2.1, h.2.2.2⟩, fun h => ⟨h.name, h.members, h.interfaces, h.base⟩⟩

instance (m : Model) : Decidable m.IsLegible := inferInstanceAs (Decidable (∀ _ ∈ _, _))

/-- The signs of all visibilities. -/
def visibilityMarks : List String := ["+", "#", "-", "~", " "]

/-- A member that a diagram shows legibly. -/
structure MemberView.IsLegible (v : MemberView) : Prop where
  mark : v.mark ∈ visibilityMarks
  typeName : IsOneLine v.typeName
  name : IsPlainName v.name

/-- A class that a diagram shows legibly, with its properties and its methods where they belong. -/
structure ClassView.IsLegible (c : ClassView) : Prop where
  name : IsPlainName c.name
  members : ∀ v ∈ c.members, v.IsLegible
  properties : ∀ v ∈ c.properties, v.kind = .property
  methods : ∀ v ∈ c.methods, v.kind = .method

/-- A block that a diagram shows legibly. -/
def Block.IsLegible : Block → Prop
  | .ofInterface name => IsPlainName name
  | .ofClass c => c.IsLegible
  | .ofEnum name => IsPlainName name
  | .ofEdge e => IsPlainName e.target ∧ IsPlainName e.source

namespace IsPlainName

variable {s : String}

theorem blank (h : IsPlainName s) : ' ' ∉ s.toList := h _ (by decide)

theorem oneLine (h : IsPlainName s) : IsOneLine s := h _ (by decide)

theorem parenthesis (h : IsPlainName s) : '(' ∉ s.toList := h _ (by decide)

theorem dollar (h : IsPlainName s) : '$' ∉ s.toList := h _ (by decide)

theorem arrowHead (h : IsPlainName s) : '<' ∉ s.toList := h _ (by decide)

end IsPlainName

theorem Visibility.mark_mem (v : Visibility) : v.mark ∈ visibilityMarks := by
  cases v <;> decide

theorem Member.view_isLegible {m : Member} (h : IsPlainName m.name ∧ IsOneLine m.typeName) :
    m.view.IsLegible := ⟨m.visibility.mark_mem, h.2, h.1⟩

theorem TypeSymbol.IsLegible.view {t : TypeSymbol} (h : t.IsLegible) : t.view.IsLegible where
  name := h.name
  members := by
    intro v hv
    simp only [ClassView.members, TypeSymbol.view, List.mem_append, List.mem_map] at hv
    obtain ⟨m, hm, rfl⟩ | ⟨m, hm, rfl⟩ := hv
    · exact Member.view_isLegible (h.members m (List.mem_of_mem_filter hm))
    · exact Member.view_isLegible (h.members m (List.mem_of_mem_filter hm))
  properties := by
    intro v hv
    obtain ⟨m, hm, rfl⟩ := List.mem_map.1 hv
    simpa [Member.view, Member.isProperty] using (Bool.and_eq_true_iff.1 (List.mem_filter.1 hm).2).2
  methods := by
    intro v hv
    obtain ⟨m, hm, rfl⟩ := List.mem_map.1 hv
    simpa [Member.view, Member.isMethod] using (Bool.and_eq_true_iff.1 (List.mem_filter.1 hm).2).2

theorem Model.mem_types_of_mem_ofKind {m : Model} {k : TypeKind} {t : TypeSymbol}
    (h : t ∈ m.ofKind k) : t ∈ m.types := List.mem_of_mem_filter h

theorem Edge.isPlainName_of_mem_edges {t : TypeSymbol} (h : t.IsLegible) {e : Edge}
    (he : e ∈ t.edges) : IsPlainName e.target.name ∧ IsPlainName e.source := by
  simp only [TypeSymbol.edges, List.mem_append, List.mem_map, Option.mem_toList] at he
  obtain ⟨i, hi, rfl⟩ | ⟨b, hb, rfl⟩ := he
  · exact ⟨h.interfaces i hi, h.name⟩
  · exact ⟨h.base b hb, h.name⟩

theorem Model.IsLegible.blocks {m : Model} (h : m.IsLegible) (p : Policy) :
    ∀ b ∈ m.blocks p, b.IsLegible := by
  intro b hb
  simp only [Model.blocks, List.mem_append, List.mem_map] at hb
  obtain ((⟨t, ht, rfl⟩ | ⟨t, ht, rfl⟩) | ⟨t, ht, rfl⟩) | ⟨e, he, rfl⟩ := hb
  · exact (h t (mem_types_of_mem_ofKind ht)).name
  · exact (h t (mem_types_of_mem_ofKind ht)).view
  · exact (h t (mem_types_of_mem_ofKind ht)).name
  · obtain ⟨t, ht, he⟩ := List.mem_flatMap.1 (List.mem_of_mem_filter he)
    exact Edge.isPlainName_of_mem_edges (h t (mem_types_of_mem_ofKind ht)) he

/-! ### Lines of a text -/

namespace Line

/-- A line below the heading that can be told apart from others: it has no line end within, and a
line of the first level does not look like one of the second level. -/
def IsRegular (l : Line) : Prop :=
  IsOneLine l.text ∧
    (l.level = 2 ∨ l.level = 1 ∧ ¬ List.replicate indentWidth ' ' <+: l.text.toList)

/-- The characters of a line without its line end. -/
def columns (l : Line) : List Char := List.replicate (l.level * indentWidth) ' ' ++ l.text.toList

theorem toList_written (l : Line) : l.written.toList = l.columns ++ ['\n'] := by
  have hw : ((l.level : Int) * (indentWidth : Int)).toNat = l.level * indentWidth := by omega
  simp [written, columns, indentation, hw]

theorem IsRegular.notMem_columns {l : Line} (h : l.IsRegular) : '\n' ∉ l.columns := by
  have := h.1
  simp_all [columns, IsOneLine, List.mem_replicate]

theorem not_columns_eq {l l' : Line} (h : l.level = 1) (h' : l'.level = 2)
    (hl : ¬ List.replicate indentWidth ' ' <+: l.text.toList) : l.columns ≠ l'.columns := by
  intro e
  rw [columns, columns, h, h', Nat.one_mul, Nat.two_mul, List.replicate_add, List.append_assoc,
    List.append_cancel_left_eq] at e
  exact hl ⟨_, e.symm⟩

theorem columns_inj {l l' : Line} (h : l.IsRegular) (h' : l'.IsRegular)
    (e : l.columns = l'.columns) : l = l' := by
  -- Blanks at the start of a text could pass for indentation; those of regular lines cannot.
  have hlevel : l.level = l'.level := by
    obtain ⟨-, h2 | ⟨h1, hl⟩⟩ := h <;> obtain ⟨-, h2' | ⟨h1', hl'⟩⟩ := h'
    · rw [h2, h2']
    · exact absurd e.symm (not_columns_eq h1' h2 hl')
    · exact absurd e (not_columns_eq h1 h2' hl)
    · rw [h1, h1']
  have htext : l.text.toList = l'.text.toList := by
    rwa [columns, columns, hlevel, List.append_cancel_left_eq] at e
  obtain ⟨level, text⟩ := l
  obtain rfl : level = l'.level := hlevel
  obtain rfl : text = l'.text := String.toList_injective htext
  rfl

theorem toList_writtenAll_cons (l : Line) (ls : List Line) :
    (writtenAll (l :: ls)).toList = l.columns ++ '\n' :: (writtenAll ls).toList := by
  simp [writtenAll, toList_written]

/-- A text determines its lines. -/
theorem writtenAll_inj {ls ls' : List Line} (h : ∀ l ∈ ls, l.IsRegular)
    (h' : ∀ l ∈ ls', l.IsRegular) (e : writtenAll ls = writtenAll ls') : ls = ls' := by
  induction ls generalizing ls' with
  | nil =>
    cases ls' with
    | nil => rfl
    | cons l' ls' =>
      have e' := congrArg String.toList e
      rw [toList_writtenAll_cons] at e'
      simp [writtenAll] at e'
  | cons l ls ih =>
    cases ls' with
    | nil =>
      have e' := congrArg String.toList e
      rw [toList_writtenAll_cons] at e'
      simp [writtenAll] at e'
    | cons l' ls' =>
      rw [List.forall_mem_cons] at h h'
      have e' := congrArg String.toList e
      rw [toList_writtenAll_cons, toList_writtenAll_cons] at e'
      obtain ⟨hl, hls⟩ := Division.at_first h.1.notMem_columns h'.1.notMem_columns e'
      rw [columns_inj h.1 h'.1 hl, ih h.2 h'.2 (String.toList_injective hls)]

end Line

/-! ### Members, classes and relationships -/

namespace MemberView

variable {v v' : MemberView}

theorem suffix_inj (h : v.suffix = v'.suffix) : v.kind = v'.kind ∧ v.isStatic = v'.isStatic := by
  rw [suffix, suffix] at h
  revert h
  cases v.kind <;> cases v'.kind <;> cases v.isStatic <;> cases v'.isStatic <;> decide

variable (v) in
theorem head?_suffix : ∀ c ∈ v.suffix.toList.head?, c = '(' ∨ c = '$' := by
  rw [suffix]
  cases v.kind <;> cases v.isStatic <;> simp

variable (v) in
theorem notMem_suffix : ∀ c ∈ [' ', '\n'], c ∉ v.suffix.toList := by
  rw [suffix]
  cases v.kind <;> cases v.isStatic <;> simp

namespace IsLegible

theorem mark_toList (h : v.IsLegible) : ∃ c, v.mark.toList = [c] ∧ c ≠ '\n' ∧ c ≠ '<' := by
  have hmarks : ∀ s ∈ visibilityMarks, ∃ c, s.toList = [c] ∧ c ≠ '\n' ∧ c ≠ '<' := by
    simp [visibilityMarks]
  exact hmarks _ h.mark

theorem text_isOneLine (h : v.IsLegible) : IsOneLine v.text := by
  obtain ⟨c, hc, hn, -⟩ := h.mark_toList
  have ht := h.typeName
  have hm := h.name.oneLine
  have hs := v.notMem_suffix '\n' (by decide)
  simp_all [text, IsOneLine, Ne.symm]

theorem text_ne (h : v.IsLegible) (s : String) : v.text ≠ "<" ++ s := by
  obtain ⟨c, hc, -, hn⟩ := h.mark_toList
  intro e
  have e' : c :: (v.typeName ++ " " ++ v.name ++ v.suffix).toList = '<' :: s.toList := by
    simpa [text, hc] using congrArg String.toList e
  exact hn (List.cons.inj e').1

/-- The text of a member determines what it shows. The type may hold blanks, the name may not. -/
theorem text_inj (h : v.IsLegible) (h' : v'.IsLegible) (e : v.text = v'.text) : v = v' := by
  have hblank : ∀ {w : MemberView}, w.IsLegible → ' ' ∉ w.name.toList ++ w.suffix.toList :=
    fun {w} hw => by simp [hw.name.blank, w.notMem_suffix]
  have hplain : ∀ {w : MemberView}, w.IsLegible → ∀ c ∈ w.name.toList, ¬ (c = '(' ∨ c = '$') := by
    rintro w hw c hc (rfl | rfl)
    · exact hw.name.parenthesis hc
    · exact hw.name.dollar hc
  have e' : (v.mark.toList ++ v.typeName.toList) ++ ' ' :: (v.name.toList ++ v.suffix.toList) =
      (v'.mark.toList ++ v'.typeName.toList) ++ ' ' :: (v'.name.toList ++ v'.suffix.toList) := by
    simpa [text] using congrArg String.toList e
  -- The blank before the name is the last one of the text.
  obtain ⟨hleft, hright⟩ := Division.at_last (hblank h) (hblank h') e'
  obtain ⟨hmark, htype⟩ := List.append_inj hleft (by
    obtain ⟨c, hc, -⟩ := h.mark_toList
    obtain ⟨c', hc', -⟩ := h'.mark_toList
    rw [hc, hc']; rfl)
  -- The name ends where the first sign of the suffix stands.
  obtain ⟨hname, hsuffix⟩ := Division.before_mark (hplain h) (hplain h') v.head?_suffix
    v'.head?_suffix hright
  obtain ⟨hkind, hstatic⟩ := suffix_inj (String.toList_injective hsuffix)
  obtain ⟨kind, mark, typeName, name, isStatic⟩ := v
  obtain ⟨kind', mark', typeName', name', isStatic'⟩ := v'
  simp_all [String.toList_inj]

end IsLegible

end MemberView

theorem openingLine_inj {n n' : String} (h : openingLine n = openingLine n') : n = n' := by
  simpa [openingLine] using h

namespace ClassView

variable {c c' : ClassView}

theorem lines_of_members_eq_nil (h : c.members = []) : c.lines = [⟨1, "class " ++ c.name⟩] := by
  rw [lines, if_pos h]

theorem lines_of_members_ne_nil (h : c.members ≠ []) :
    c.lines = openingLine c.name :: c.members.map (⟨2, ·.text⟩) ++ [closingLine] := by
  rw [lines, if_neg h]

theorem length_lines_of_members_ne_nil (h : c.members ≠ []) : 2 < c.lines.length := by
  have := List.length_pos_iff.2 h
  rw [lines_of_members_ne_nil h]
  simp
  omega

theorem eq_of_members_eq (h : c.IsLegible) (h' : c'.IsLegible) (hname : c.name = c'.name)
    (e : c.members = c'.members) : c = c' := by
  -- The first method is the mark between properties and methods.
  have hproperties : ∀ {d : ClassView}, d.IsLegible → ∀ v ∈ d.properties, ¬ v.kind = .method :=
    fun hd v hv => by simp [hd.properties v hv]
  obtain ⟨hp, hm⟩ := Division.before_mark (hproperties h) (hproperties h')
    (fun v hv => h.methods v (List.mem_of_mem_head? hv))
    (fun v hv => h'.methods v (List.mem_of_mem_head? hv)) e
  obtain ⟨name, properties, methods⟩ := c
  obtain ⟨name', properties', methods'⟩ := c'
  simp_all

/-- The lines of a class determine what it shows. -/
theorem lines_inj (h : c.IsLegible) (h' : c'.IsLegible) (e : c.lines = c'.lines) : c = c' := by
  -- A class without members has one line, any other class has three lines or more.
  by_cases hc : c.members = [] <;> by_cases hc' : c'.members = []
  · rw [lines_of_members_eq_nil hc, lines_of_members_eq_nil hc'] at e
    exact eq_of_members_eq h h' (by simpa using e) (hc.trans hc'.symm)
  · have := length_lines_of_members_ne_nil hc'
    rw [← e, lines_of_members_eq_nil hc] at this
    simp at this
  · have := length_lines_of_members_ne_nil hc
    rw [e, lines_of_members_eq_nil hc'] at this
    simp at this
  · rw [lines_of_members_ne_nil hc, lines_of_members_ne_nil hc', List.append_cancel_right_eq,
      List.cons.injEq] at e
    refine eq_of_members_eq h h' (openingLine_inj e.1) (Division.eq_of_map_eq
      (fun v v' hv hv' ev => hv.text_inj hv' (by simpa using ev)) h.members h'.members e.2)

theorem stereotype_ne_lines (h : c.IsLegible) (n w : String) :
    [openingLine n, ⟨2, "<<" ++ w⟩, closingLine] ≠ c.lines := by
  intro e
  by_cases hc : c.members = []
  · simp [lines_of_members_eq_nil hc] at e
  · obtain ⟨v, vs, hv⟩ := List.exists_cons_of_ne_nil hc
    rw [lines_of_members_ne_nil hc, hv] at e
    simp only [List.map_cons, List.cons_append, List.cons.injEq, Line.mk.injEq, true_and] at e
    have htext : "<" ++ ("<" ++ w) = v.text := by rw [← e.2.1, ← String.append_assoc]; rfl
    exact (h.members v (by simp [hv])).text_ne ("<" ++ w) htext.symm

end ClassView

theorem EdgeKind.arrow_inj {k k' : EdgeKind} (h : k.arrow = k'.arrow) : k = k' := by
  revert h
  cases k <;> cases k' <;> decide

theorem EdgeKind.arrow_toList (k : EdgeKind) : ∃ cs, k.arrow.toList = '<' :: cs ∧ ' ' ∉ cs := by
  cases k
  · exact ⟨['|', '.', '.'], by decide⟩
  · exact ⟨['|', '-', '-'], by decide⟩

namespace EdgeView

theorem toList_text (e : EdgeView) : e.line.text.toList =
    e.target.toList ++ ' ' :: (e.kind.arrow.toList ++ ' ' :: e.source.toList) := by
  simp [line]

/-- The line of a relationship determines it, if the name of its target has no blank. -/
theorem line_inj {e e' : EdgeView} (h : IsPlainName e.target) (h' : IsPlainName e'.target)
    (he : e.line = e'.line) : e = e' := by
  have hblank : ∀ k : EdgeKind, ' ' ∉ k.arrow.toList := by
    intro k
    cases k <;> decide
  have ht : e.line.text.toList = e'.line.text.toList := by rw [he]
  rw [toList_text, toList_text] at ht
  obtain ⟨htarget, ht⟩ := Division.at_first h.blank h'.blank ht
  obtain ⟨harrow, hsource⟩ := Division.at_first (hblank _) (hblank _) ht
  have hkind := EdgeKind.arrow_inj (String.toList_injective harrow)
  obtain ⟨kind, target, source⟩ := e
  obtain ⟨kind', target', source'⟩ := e'
  simp_all [String.toList_inj]

/-- No relationship looks like a class, even if its target is called `class`. -/
theorem line_ne_class {e : EdgeView} (h : IsPlainName e.target) {name : String}
    (hname : IsPlainName name) : e.line ≠ ⟨1, "class " ++ name⟩ := by
  intro he
  obtain ⟨cs, hcs, -⟩ := e.kind.arrow_toList
  have ht : e.target.toList ++ ' ' :: (e.kind.arrow.toList ++ ' ' :: e.source.toList) =
      "class".toList ++ ' ' :: name.toList := by
    rw [← toList_text, he]; simp
  obtain ⟨-, hrest⟩ := Division.at_first h.blank (by decide) ht
  exact hname.arrowHead (by rw [← hrest, hcs]; simp)

end EdgeView

/-! ### Blocks -/

/-- A line that opens a block: it stands on the first level, and does not close one. -/
def Line.Opens (l : Line) : Prop := l.level = 1 ∧ l ≠ closingLine

theorem Line.opens_of_mem {l : Line} (h : l.level = 1) {c : Char} (hc : c ∈ l.text.toList)
    (hne : c ≠ '\x7d') : l.Opens := by
  refine ⟨h, ?_⟩
  rintro rfl
  exact hne (by simpa [closingLine] using hc)

theorem Line.not_opens_member (text : String) : ¬ (⟨2, text⟩ : Line).Opens := fun h => by
  simpa using h.1

theorem not_opens_closingLine : ¬ closingLine.Opens := fun h => h.2 rfl

theorem openingLine_opens (n : String) : (openingLine n).Opens :=
  Line.opens_of_mem (c := 'c') rfl (by simp [openingLine]) (by decide)

theorem openingLine_isRegular {n : String} (h : IsPlainName n) : (openingLine n).IsRegular := by
  have := h.oneLine
  exact ⟨by simp_all [IsOneLine, openingLine], .inr ⟨rfl, by simp [openingLine, indentWidth,
    List.replicate_succ]⟩⟩

theorem closingLine_isRegular : closingLine.IsRegular :=
  ⟨by decide, .inr ⟨rfl, by decide⟩⟩

theorem EdgeView.line_opens (e : EdgeView) : e.line.Opens :=
  Line.opens_of_mem (c := ' ') rfl (by simp [line]) (by decide)

theorem EdgeView.line_isRegular {e : EdgeView} (h : IsPlainName e.target)
    (h' : IsPlainName e.source) : e.line.IsRegular := by
  refine ⟨?_, .inr ⟨rfl, ?_⟩⟩
  · have := h.oneLine
    have := h'.oneLine
    have : '\n' ∉ e.kind.arrow.toList := by cases e.kind <;> decide
    simp_all [IsOneLine, line]
  · rw [toList_text]
    obtain ⟨cs, hcs, -⟩ := e.kind.arrow_toList
    have hblank := h.blank
    cases ht : e.target.toList with
    | nil => simp [hcs, indentWidth, List.replicate_succ]
    | cons c => simp_all [indentWidth, List.replicate_succ]

namespace Block

variable {b b' : Block}

theorem isBlock_lines (b : Block) : Division.IsBlock Line.Opens b.lines := by
  cases b with
  | ofInterface n => exact ⟨_, _, rfl, openingLine_opens n, by
      simp [Line.not_opens_member, not_opens_closingLine]⟩
  | ofClass c =>
    by_cases hc : c.members = []
    · exact ⟨_, [], ClassView.lines_of_members_eq_nil hc,
        Line.opens_of_mem (c := 'c') rfl (by simp) (by decide), by simp⟩
    · refine ⟨_, _, ClassView.lines_of_members_ne_nil hc, openingLine_opens c.name, ?_⟩
      simp only [List.append_eq, List.mem_append, List.mem_map, List.mem_singleton]
      rintro l (⟨v, -, rfl⟩ | rfl)
      · exact Line.not_opens_member _
      · exact not_opens_closingLine
  | ofEnum n => exact ⟨_, _, rfl, openingLine_opens n, by
      simp [Line.not_opens_member, not_opens_closingLine]⟩
  | ofEdge e => exact ⟨_, _, rfl, e.line_opens, by simp⟩

theorem isRegular_of_mem_lines (h : b.IsLegible) : ∀ l ∈ b.lines, l.IsRegular := by
  have hstereotype : ∀ {n w : String}, IsPlainName n → IsOneLine w →
      ∀ l ∈ [openingLine n, ⟨2, w⟩, closingLine], l.IsRegular := by
    intro n w hn hw l hl
    simp only [List.mem_cons, List.not_mem_nil, or_false] at hl
    rcases hl with rfl | rfl | rfl
    · exact openingLine_isRegular hn
    · exact ⟨hw, .inl rfl⟩
    · exact closingLine_isRegular
  cases b with
  | ofInterface n => exact hstereotype h (by decide)
  | ofClass c =>
    intro l hl
    change l ∈ c.lines at hl
    by_cases hc : c.members = []
    · rw [ClassView.lines_of_members_eq_nil hc, List.mem_singleton] at hl
      have := h.name.oneLine
      subst hl
      exact ⟨by simp_all [IsOneLine], .inr ⟨rfl, by simp [indentWidth, List.replicate_succ]⟩⟩
    · rw [ClassView.lines_of_members_ne_nil hc] at hl
      simp only [List.cons_append, List.mem_cons, List.mem_append, List.mem_map, List.not_mem_nil,
        or_false] at hl
      obtain rfl | ⟨v, hv, rfl⟩ | rfl := hl
      · exact openingLine_isRegular h.name
      · exact ⟨(h.members v hv).text_isOneLine, .inl rfl⟩
      · exact closingLine_isRegular
  | ofEnum n => exact hstereotype h (by decide)
  | ofEdge e =>
    intro l hl
    obtain rfl := List.mem_singleton.1 hl
    exact EdgeView.line_isRegular h.1 h.2

theorem edge_ne_class {e : EdgeView} (h : IsPlainName e.target) {c : ClassView}
    (hc : c.IsLegible) : [e.line] ≠ c.lines := by
  intro he
  by_cases hm : c.members = []
  · rw [ClassView.lines_of_members_eq_nil hm] at he
    exact EdgeView.line_ne_class h hc.name (by simpa using he)
  · have := ClassView.length_lines_of_members_ne_nil hm
    simp [← he] at this

/-- The lines of a legible block determine it. -/
theorem lines_inj (h : b.IsLegible) (h' : b'.IsLegible) (e : b.lines = b'.lines) : b = b' := by
  cases b with
  | ofInterface n =>
    cases b' with
    | ofInterface n' => rw [openingLine_inj (List.cons.inj e).1]
    | ofClass c => exact absurd e (ClassView.stereotype_ne_lines h' n "interface>>")
    | ofEnum n' => simp [lines] at e
    | ofEdge e' => simp [lines] at e
  | ofClass c =>
    cases b' with
    | ofInterface n' => exact absurd e.symm (ClassView.stereotype_ne_lines h n' "interface>>")
    | ofClass c' => rw [ClassView.lines_inj h h' e]
    | ofEnum n' => exact absurd e.symm (ClassView.stereotype_ne_lines h n' "enumeration>>")
    | ofEdge e' => exact absurd e.symm (edge_ne_class h'.1 h)
  | ofEnum n =>
    cases b' with
    | ofInterface n' => simp [lines] at e
    | ofClass c => exact absurd e (ClassView.stereotype_ne_lines h' n "enumeration>>")
    | ofEnum n' => rw [openingLine_inj (List.cons.inj e).1]
    | ofEdge e' => simp [lines] at e
  | ofEdge d =>
    cases b' with
    | ofInterface n' => simp [lines] at e
    | ofClass c => exact absurd e (edge_ne_class h.1 h')
    | ofEnum n' => simp [lines] at e
    | ofEdge d' => rw [EdgeView.line_inj h.1 h'.1 (List.cons.inj e).1]

/-- The name of an interface. -/
def interface? : Block → Option String
  | ofInterface name => some name
  | _ => none

/-- What is shown of a class. -/
def class? : Block → Option ClassView
  | ofClass c => some c
  | _ => none

/-- The name of an enumeration. -/
def enum? : Block → Option String
  | ofEnum name => some name
  | _ => none

/-- What is shown of a relationship. -/
def edge? : Block → Option EdgeView
  | ofEdge e => some e
  | _ => none

end Block

/-! ### Diagrams -/

namespace Model

section

variable (m : Model) (p : Policy)

theorem filterMap_interface?_blocks :
    (m.blocks p).filterMap Block.interface? = m.interfaces.map (·.name) := by
  simp [blocks, List.filterMap_append, List.filterMap_map, Function.comp_def, Block.interface?]

theorem filterMap_class?_blocks :
    (m.blocks p).filterMap Block.class? = m.classes.map (·.view) := by
  simp [blocks, List.filterMap_append, List.filterMap_map, Function.comp_def, Block.class?]

theorem filterMap_enum?_blocks :
    (m.blocks p).filterMap Block.enum? = m.enums.map (·.name) := by
  simp [blocks, List.filterMap_append, List.filterMap_map, Function.comp_def, Block.enum?]

theorem filterMap_edge?_blocks :
    (m.blocks p).filterMap Block.edge? = (m.keptEdges p).map (·.view) := by
  simp [blocks, List.filterMap_append, List.filterMap_map, Function.comp_def, Block.edge?]

end

variable {m m' : Model} {p p' : Policy}

/-- A diagram determines its blocks. -/
theorem blocks_eq_of_render_eq (h : m.IsLegible) (h' : m'.IsLegible)
    (e : m.render p = m'.render p') : m.blocks p = m'.blocks p' := by
  have hregular : ∀ {n : Model} (_ : n.IsLegible) (q : Policy),
      ∀ l ∈ (n.blocks q).flatMap Block.lines, l.IsRegular := by
    intro n hn q l hl
    obtain ⟨b, hb, hl⟩ := List.mem_flatMap.1 hl
    exact Block.isRegular_of_mem_lines (hn.blocks q b hb) l hl
  -- From the text to its lines, from the lines to those of each block, and then to the blocks.
  have ht := congrArg String.toList e
  rw [render, render, lines_eq_blocks, lines_eq_blocks, Line.toList_writtenAll_cons,
    Line.toList_writtenAll_cons, List.append_cancel_left_eq, List.cons.injEq] at ht
  have hlines := Line.writtenAll_inj (hregular h p) (hregular h' p')
    (String.toList_injective ht.2)
  exact Division.eq_of_map_eq (fun _ _ hb hb' => Block.lines_inj hb hb') (h.blocks p)
    (h'.blocks p') (Division.map_eq_of_flatMap_eq Block.isBlock_lines hlines)

/-- **A legible diagram loses nothing of what it shows.** Two models with the same diagram, under
any two policies, have the same interfaces and enumerations by name, the same classes with the same
visible properties and methods, and the same relationships that are kept, all in the same order. -/
theorem shown_eq_of_render_eq (h : m.IsLegible) (h' : m'.IsLegible)
    (e : m.render p = m'.render p') :
    m.interfaces.map (·.name) = m'.interfaces.map (·.name) ∧
      m.enums.map (·.name) = m'.enums.map (·.name) ∧
      m.classes.map (·.view) = m'.classes.map (·.view) ∧
      (m.keptEdges p).map (·.view) = (m'.keptEdges p').map (·.view) := by
  have hb := blocks_eq_of_render_eq h h' e
  refine ⟨?_, ?_, ?_, ?_⟩
  · rw [← filterMap_interface?_blocks m p, hb, filterMap_interface?_blocks]
  · rw [← filterMap_enum?_blocks m p, hb, filterMap_enum?_blocks]
  · rw [← filterMap_class?_blocks m p, hb, filterMap_class?_blocks]
  · rw [← filterMap_edge?_blocks m p, hb, filterMap_edge?_blocks]

/-- A model with an interface without a name, and a class of the name `class` that implements it,
extends itself, and has much that no diagram shows. -/
def crowded : Model where
  types := [
    { name := "class",
      members := [
        { kind := .method, name := "get_x", typeName := "int", isAccessor := true },
        { kind := .property, name := "x", typeName := "IList < int >", isStatic := true },
        { kind := .method, name := "", visibility := .privateAccess }],
      interfaces := [{ name := "IList", namespaceName := "System.Collections" }, { name := "" }],
      base := some { name := "class" } },
    { name := "", kind := .interfaceType }]

/-- A model with the same diagram and little else. -/
def tidy : Model where
  types := [
    { name := "", kind := .interfaceType },
    { name := "class",
      members := [
        { kind := .method, name := "", visibility := .privateAccess },
        { kind := .property, name := "x", typeName := "IList < int >", isStatic := true }],
      interfaces := [{ name := "" }],
      base := some { name := "class" } }]

theorem shown_eq_crowded_tidy :
    crowded.IsLegible ∧ tidy.IsLegible ∧ crowded.render .standard = tidy.render ⟨[], [], []⟩ ∧
      crowded.interfaces.map (·.name) = tidy.interfaces.map (·.name) ∧
      crowded.enums.map (·.name) = tidy.enums.map (·.name) ∧
      crowded.classes.map (·.view) = tidy.classes.map (·.view) ∧
      (crowded.keptEdges .standard).map (·.view) = (tidy.keptEdges ⟨[], [], []⟩).map (·.view) :=
  ⟨by decide +kernel, by decide +kernel, by decide +kernel,
    shown_eq_of_render_eq (by decide +kernel) (by decide +kernel) (by decide +kernel)⟩

end Model

end ClassDiagram
