import ClassDiagram.Proofs.Diagram.Section
import ClassDiagram.Proofs.Text.Division
import Mathlib.Data.Set.Card

/-!
# Nesting of a diagram

Below the heading, the lines of a diagram stand on two levels. The lines of the second level come in
runs, and a run always fills the frame of one type: the line that opens the type stands right before
it, the line that closes the type right behind it. Names do not matter for this, as it is a property
of the levels and not of the texts.

* `Excerpt.IsRunOf` says that some lines are a run of the second level that cannot be made longer;
* `IsNested` derives lines of the first level and frames around runs, with the names of the frames;
* `IsNested.encard_runs` counts the runs of derived lines, `IsNested.isFramedBy_of_isRunOf` finds
  their frames;
* `Model.lines_nested` is the line structure of every diagram, with the number of its lines.
-/

namespace ClassDiagram

/-! ### Runs -/

/-- A piece of a list of lines, with the lines before it and those behind it. -/
structure Excerpt where
  /-- The lines before the piece. -/
  before : List Line
  /-- The piece. -/
  piece : List Line
  /-- The lines behind the piece. -/
  behind : List Line

namespace Excerpt

/-- The piece is a run of lines of the second level in the lines, and it cannot be made longer on
either side. -/
structure IsRunOf (x : Excerpt) (ls : List Line) : Prop where
  eq : x.before ++ (x.piece ++ x.behind) = ls
  ne_nil : x.piece ≠ []
  nested : ∀ l ∈ x.piece, l.level = 2
  starts : ∀ l ∈ x.before.getLast?, l.level ≠ 2
  ends : ∀ l ∈ x.behind.head?, l.level ≠ 2

/-- The lines right before and right behind the piece open and close the block of a type of some
name. -/
structure IsFramedBy (x : Excerpt) (name : String) : Prop where
  opening : x.before.getLast? = some (openingLine name)
  closing : x.behind.head? = some closingLine

/-- The same piece behind some more lines. -/
def after (as : List Line) (x : Excerpt) : Excerpt := { x with before := as ++ x.before }

theorem after_injective (as : List Line) : Function.Injective (after as) := by
  rintro ⟨before, piece, behind⟩ ⟨before', piece', behind'⟩ h
  simpa [after] using h

theorem IsFramedBy.after {x : Excerpt} {name : String} (h : x.IsFramedBy name) (as : List Line) :
    (x.after as).IsFramedBy name where
  opening := by simp [Excerpt.after, List.getLast?_append, h.opening]
  closing := h.closing

end Excerpt

/-- The runs of the second level in a list of lines. -/
def runs (ls : List Line) : Set Excerpt := {x | x.IsRunOf ls}

section Runs

variable {l : Line} {ls piece : List Line}

theorem runs_nil : runs [] = ∅ := by
  refine Set.eq_empty_of_forall_notMem fun x hx => hx.ne_nil ?_
  have h := List.append_eq_nil_iff.1 hx.eq
  exact (List.append_eq_nil_iff.1 h.2).1

/-- Behind a line of another level, the runs do not depend on what is before it. -/
theorem isRunOf_after_iff {x : Excerpt} (as : List Line) (hl : l.level ≠ 2) :
    (x.after (as ++ [l])).IsRunOf (as ++ l :: ls) ↔ x.IsRunOf ls := by
  have heq : (as ++ [l] ++ x.before) ++ (x.piece ++ x.behind) = as ++ l :: ls ↔
      x.before ++ (x.piece ++ x.behind) = ls := by simp
  have hstarts : (∀ k ∈ (as ++ [l] ++ x.before).getLast?, k.level ≠ 2) ↔
      ∀ k ∈ x.before.getLast?, k.level ≠ 2 := by
    cases h : x.before.getLast? with
    | none => simp [List.getLast?_append, List.getLast?_cons, h, hl]
    | some k => simp [List.getLast?_append, List.getLast?_cons, h]
  exact ⟨fun hx => ⟨heq.1 hx.eq, hx.ne_nil, hx.nested, hstarts.1 hx.starts, hx.ends⟩,
    fun hx => ⟨heq.2 hx.eq, hx.ne_nil, hx.nested, hstarts.2 hx.starts, hx.ends⟩⟩

/-- A line of another level has no part in a run. -/
theorem runs_cons (hl : l.level ≠ 2) : runs (l :: ls) = Excerpt.after [l] '' runs ls := by
  ext x
  constructor
  · intro hx
    obtain ⟨before, piece, behind⟩ := x
    cases before with
    | nil =>
      -- The run would start with the line.
      obtain ⟨k, ks, rfl⟩ := List.exists_cons_of_ne_nil hx.ne_nil
      cases hx.eq
      exact absurd (hx.nested l List.mem_cons_self) hl
    | cons b bs =>
      obtain ⟨rfl, rfl⟩ := List.cons.inj hx.eq
      exact ⟨⟨bs, piece, behind⟩, (isRunOf_after_iff [] hl).1 hx, rfl⟩
  · rintro ⟨y, hy, rfl⟩
    exact (isRunOf_after_iff [] hl).2 hy

/-- Lines of the second level in front are one run, if a line of another level follows. -/
theorem runs_append_cons (hne : piece ≠ []) (hpiece : ∀ k ∈ piece, k.level = 2)
    (hl : l.level ≠ 2) :
    runs (piece ++ l :: ls) =
      insert ⟨[], piece, l :: ls⟩ (Excerpt.after (piece ++ [l]) '' runs ls) := by
  ext x
  constructor
  · intro hx
    obtain ⟨before, run, behind⟩ := x
    have heq : before ++ (run ++ behind) = piece ++ l :: ls := hx.eq
    by_cases hb : before = []
    · -- Both the run and the piece end where the first line of another level stands.
      subst hb
      have hmark : ∀ k ∈ (l :: ls).head?, k.level ≠ 2 := by simpa using hl
      obtain ⟨rfl, rfl⟩ := Division.before_mark (P := fun k : Line => k.level ≠ 2)
        (fun k hk => not_not.2 (hx.nested k hk)) (fun k hk => not_not.2 (hpiece k hk)) hx.ends
        hmark heq
      exact .inl rfl
    · -- No run starts within the piece, as the line before it would be of the second level.
      have hlast : before.getLast hb ∉ piece := fun hmem =>
        hx.starts _ (List.getLast?_eq_some_getLast hb) (hpiece _ hmem)
      obtain ⟨c, rfl, -⟩ | ⟨c, rfl, hrest⟩ := List.append_eq_append_iff.1 heq
      · exact absurd (List.mem_append_left c (List.getLast_mem hb)) hlast
      cases c with
      | nil => exact absurd (by simp) hlast
      | cons d bs =>
        obtain ⟨rfl, rfl⟩ := List.cons.inj hrest
        have hafter : (⟨piece ++ l :: bs, run, behind⟩ : Excerpt) =
            Excerpt.after (piece ++ [l]) ⟨bs, run, behind⟩ := by simp [Excerpt.after]
        rw [hafter] at hx ⊢
        exact .inr ⟨_, (isRunOf_after_iff piece hl).1 hx, rfl⟩
  · rintro (rfl | ⟨y, hy, rfl⟩)
    · exact ⟨rfl, hne, hpiece, fun k hk => (nomatch hk), by simpa using hl⟩
    · exact (isRunOf_after_iff piece hl).2 hy

theorem encard_runs_cons (hl : l.level ≠ 2) : (runs (l :: ls)).encard = (runs ls).encard := by
  rw [runs_cons hl, (Excerpt.after_injective [l]).encard_image]

theorem encard_runs_append_cons (hne : piece ≠ []) (hpiece : ∀ k ∈ piece, k.level = 2)
    (hl : l.level ≠ 2) : (runs (piece ++ l :: ls)).encard = (runs ls).encard + 1 := by
  have hnew : (⟨[], piece, l :: ls⟩ : Excerpt) ∉ Excerpt.after (piece ++ [l]) '' runs ls := by
    rintro ⟨y, -, hy⟩
    simp [Excerpt.after] at hy
  rw [runs_append_cons hne hpiece hl, Set.encard_insert_of_notMem hnew,
    (Excerpt.after_injective _).encard_image]

end Runs

/-! ### Frames -/

/-- Lines that follow each other below the heading: lines of the first level, and frames, each of
which opens with a name and holds lines of the second level. The names of the frames are listed in
order. Lines of the first level may have any text, that of an opening or a closing line too. -/
inductive IsNested : List String → List Line → Prop
  | nil : IsNested [] []
  | line {names : List String} {l : Line} {ls : List Line} (hl : l.level = 1)
      (h : IsNested names ls) : IsNested names (l :: ls)
  | frame {name : String} {names : List String} {piece ls : List Line} (hne : piece ≠ [])
      (hpiece : ∀ l ∈ piece, l.level = 2) (h : IsNested names ls) :
      IsNested (name :: names) (openingLine name :: (piece ++ closingLine :: ls))

namespace IsNested

variable {names names' : List String} {ls ls' : List Line}

theorem append (h : IsNested names ls) (h' : IsNested names' ls') :
    IsNested (names ++ names') (ls ++ ls') := by
  induction h with
  | nil => exact h'
  | line hl _ ih => exact .line hl ih
  | frame hne hpiece _ ih => simpa using .frame hne hpiece ih

/-- Types one after the other, some of which have a frame. -/
theorem ofTypes (framed : TypeSymbol → Bool) {block : TypeSymbol → List Line}
    (h : ∀ t, IsNested (if framed t then [t.name] else []) (block t)) (ts : List TypeSymbol) :
    IsNested ((ts.filter framed).map (·.name)) (ts.flatMap block) := by
  induction ts with
  | nil => exact .nil
  | cons t ts ih =>
    have ht := (h t).append ih
    cases hf : framed t <;> simpa [hf] using ht

theorem of_level (h : ∀ l ∈ ls, l.level = 1) : IsNested [] ls := by
  induction ls with
  | nil => exact .nil
  | cons l ls ih =>
    rw [List.forall_mem_cons] at h
    exact .line h.1 (ih h.2)

theorem level_eq (h : IsNested names ls) : ∀ l ∈ ls, l.level = 1 ∨ l.level = 2 := by
  induction h with
  | nil => simp
  | line hl _ ih => exact List.forall_mem_cons.2 ⟨.inl hl, ih⟩
  | frame _ hpiece _ ih =>
    intro l hl
    simp only [List.mem_cons, List.mem_append] at hl
    obtain rfl | hl | rfl | hl := hl
    · exact .inl rfl
    · exact .inr (hpiece l hl)
    · exact .inl rfl
    · exact ih l hl

/-- Every frame holds one run, and there are no other runs. -/
theorem encard_runs (h : IsNested names ls) : (runs ls).encard = names.length := by
  induction h with
  | nil => simp [runs_nil]
  | line hl _ ih => rw [encard_runs_cons (by simp [hl]), ih]
  | frame hne hpiece _ ih =>
    rw [encard_runs_cons (by simp [openingLine]), encard_runs_append_cons hne hpiece
      (by simp [closingLine]), ih]
    simp

theorem isFramedBy_of_isRunOf (h : IsNested names ls) {x : Excerpt} (hx : x.IsRunOf ls) :
    ∃ name ∈ names, x.IsFramedBy name := by
  change x ∈ runs ls at hx
  induction h generalizing x with
  | nil => simp [runs_nil] at hx
  | line hl _ ih =>
    rw [runs_cons (by simp [hl])] at hx
    obtain ⟨y, hy, rfl⟩ := hx
    obtain ⟨name, hname, hframed⟩ := ih hy
    exact ⟨name, hname, hframed.after _⟩
  | @frame name _ piece ls hne hpiece _ ih =>
    rw [runs_cons (by simp [openingLine]), runs_append_cons hne hpiece
      (by simp [closingLine])] at hx
    obtain ⟨y, rfl | ⟨z, hz, rfl⟩, rfl⟩ := hx
    · exact ⟨name, List.mem_cons_self, rfl, rfl⟩
    · obtain ⟨name', hname', hframed⟩ := ih hz
      exact ⟨name', List.mem_cons_of_mem _ hname', (hframed.after _).after _⟩

end IsNested

/-! ### Types -/

namespace TypeSymbol

variable (t : TypeSymbol) (p : Policy)

/-- The number of members that neither the compiler supplied nor serve a property. -/
def visibleCount : Nat := t.members.countP Member.isVisible

/-- The number of relationships that the policy keeps. -/
def keptCount : Nat := t.interfaces.countP p.admitsInterface + t.base.toList.countP p.admitsBase

/-- The number of lines of a class: a single one, or the visible members in a frame. -/
def height : Nat := if t.visibleCount = 0 then 1 else 2 + t.visibleCount

/-- A visible member is a property or a method. -/
theorem length_memberLines : t.memberLines.length = t.visibleCount := by
  have hkind (m : Member) : m.isMethod = !m.isProperty := by
    cases hm : m.kind <;> simp [Member.isMethod, Member.isProperty, hm]
  rw [memberLines, visibleProperties, visibleMethods, List.length_append, List.length_map,
    List.length_map, ← List.countP_eq_length_filter, ← List.countP_eq_length_filter,
    visibleCount, List.countP_eq_countP_filter_add t.members Member.isVisible Member.isProperty,
    List.countP_filter, List.countP_filter]
  simp only [hkind]

theorem length_classBlock : t.classBlock.length = t.height := by
  rw [classBlock, height, ← length_memberLines]
  by_cases h : t.memberLines = []
  · simp [h]
  · have hlength : t.memberLines.length ≠ 0 := mt List.length_eq_zero_iff.1 h
    rw [if_neg h, if_neg hlength]
    simp
    omega

theorem length_edgeLines : (t.edgeLines p).length = t.keptCount p := by
  rw [edgeLines, List.length_map, ← List.countP_eq_length_filter, edges, List.countP_append,
    List.countP_map, List.countP_map, keptCount]
  rfl

theorem isNested_stereotypeBlock (stereotype : String) :
    IsNested [t.name] (t.stereotypeBlock stereotype) := by
  have hlevel : ∀ l ∈ [(⟨2, "<<" ++ stereotype ++ ">>"⟩ : Line)], l.level = 2 := by simp
  exact .frame (List.cons_ne_nil _ _) hlevel .nil

theorem memberLines_eq_nil_iff : t.memberLines = [] ↔ t.members.any Member.isVisible = false := by
  rw [← List.length_eq_zero_iff, length_memberLines, visibleCount, List.countP_eq_zero]
  simp

theorem isNested_classBlock :
    IsNested (if t.members.any Member.isVisible then [t.name] else []) t.classBlock := by
  cases hv : t.members.any Member.isVisible with
  | false =>
    have hnil := t.memberLines_eq_nil_iff.2 hv
    rw [classBlock, if_pos hnil]
    exact .line rfl .nil
  | true =>
    have hne : t.memberLines ≠ [] := by simp [memberLines_eq_nil_iff, hv]
    have hlevel : ∀ l ∈ t.memberLines, l.level = 2 := by
      intro l hl
      simp only [memberLines, List.mem_append, List.mem_map] at hl
      obtain ⟨m, -, rfl⟩ | ⟨m, -, rfl⟩ := hl <;> rfl
    rw [classBlock, if_neg hne]
    exact .frame hne hlevel .nil

theorem isNested_edgeLines : IsNested [] (t.edgeLines p) := by
  refine .of_level fun l hl => ?_
  obtain ⟨e, -, rfl⟩ := List.mem_map.1 hl
  rfl

end TypeSymbol

/-! ### Diagrams -/

namespace Model

variable (m : Model) (p : Policy)

/-- The types with a frame: all but the classes without a visible member. -/
def framed : List TypeSymbol :=
  m.interfaces ++ m.classes.filter (·.members.any Member.isVisible) ++ m.enums

theorem mem_types_of_mem_framed {t : TypeSymbol} (h : t ∈ m.framed) : t ∈ m.types := by
  simp only [framed, List.mem_append, List.mem_filter] at h
  obtain (h | ⟨h, -⟩) | h := h <;> exact List.mem_of_mem_filter h

/-- Below the heading, a diagram is nested. -/
theorem isNested_body : IsNested (m.framed.map (·.name))
    (m.interfaceLines ++ m.classLines ++ m.enumLines ++ m.edgeLines p) := by
  have hi : IsNested (m.interfaces.map (·.name)) m.interfaceLines := by
    simpa [interfaceLines] using IsNested.ofTypes (fun _ => true)
      (fun t => t.isNested_stereotypeBlock "interface") m.interfaces
  have hc : IsNested ((m.classes.filter (·.members.any Member.isVisible)).map (·.name))
      m.classLines := IsNested.ofTypes _ TypeSymbol.isNested_classBlock m.classes
  have he : IsNested (m.enums.map (·.name)) m.enumLines := by
    simpa [enumLines] using IsNested.ofTypes (fun _ => true)
      (fun t => t.isNested_stereotypeBlock "enumeration") m.enums
  have hr : IsNested [] (m.edgeLines p) := by
    simpa [edgeLines] using IsNested.ofTypes (fun _ => false)
      (fun t => t.isNested_edgeLines p) m.classes
  rw [framed, List.map_append, List.map_append]
  simpa using ((hi.append hc).append he).append hr

theorem length_flatMap_stereotypeBlock (stereotype : String) (ts : List TypeSymbol) :
    (ts.flatMap (TypeSymbol.stereotypeBlock stereotype)).length = 3 * ts.length := by
  simp [List.length_flatMap, TypeSymbol.stereotypeBlock, Nat.mul_comm]

theorem length_lines : (m.lines p).length = 1 + 3 * (m.interfaces.length + m.enums.length) +
    (m.classes.map TypeSymbol.height).sum + (m.classes.map (·.keptCount p)).sum := by
  have hc : m.classLines.length = (m.classes.map TypeSymbol.height).sum := by
    simp only [classLines, List.length_flatMap, TypeSymbol.length_classBlock]
  have hr : (m.edgeLines p).length = (m.classes.map (·.keptCount p)).sum := by
    simp only [edgeLines, List.length_flatMap, TypeSymbol.length_edgeLines]
  rw [lines_eq_sections, List.length_cons, List.length_append, List.length_append,
    List.length_append, hc, hr, interfaceLines, enumLines, length_flatMap_stereotypeBlock,
    length_flatMap_stereotypeBlock]
  omega

/-- **Every diagram is a heading and lines on two levels, nested in frames.** No assumption on names
is needed. The heading is the only line of level zero. A run of lines of the second level stands in
the frame of a type, and there is one run for each interface, each enumeration and each class with a
visible member. The number of lines follows from the numbers of types, visible members and
relationships of classes that are kept. -/
theorem lines_nested :
    (∃ first rest, m.lines p = first :: rest ∧ first.level = 0 ∧
      ∀ l ∈ rest, l.level = 1 ∨ l.level = 2) ∧
    (∀ x : Excerpt, x.IsRunOf (m.lines p) → ∃ t ∈ m.types,
      x.before.getLast? = some ⟨1, "class " ++ t.name ++ " \x7b"⟩ ∧
      x.behind.head? = some ⟨1, "\x7d"⟩) ∧
    {x : Excerpt | x.IsRunOf (m.lines p)}.encard =
      (m.interfaces.length + m.enums.length +
        (m.classes.filter (·.members.any Member.isVisible)).length : ℕ) ∧
    (m.lines p).length = 1 + 3 * (m.interfaces.length + m.enums.length) +
      (m.classes.map TypeSymbol.height).sum + (m.classes.map (·.keptCount p)).sum := by
  have hbody := m.isNested_body p
  have hheading : heading.level ≠ 2 := by simp [heading]
  refine ⟨⟨heading, _, m.lines_eq_sections p, rfl, hbody.level_eq⟩, fun x hx => ?_, ?_,
    m.length_lines p⟩
  · change x ∈ runs (m.lines p) at hx
    rw [lines_eq_sections, runs_cons hheading] at hx
    obtain ⟨y, hy, rfl⟩ := hx
    obtain ⟨name, hname, hframed⟩ := hbody.isFramedBy_of_isRunOf hy
    obtain ⟨t, ht, rfl⟩ := List.mem_map.1 hname
    have hx := hframed.after [heading]
    exact ⟨t, m.mem_types_of_mem_framed ht, hx.opening, hx.closing⟩
  · change (runs (m.lines p)).encard = _
    rw [lines_eq_sections, encard_runs_cons hheading, hbody.encard_runs, framed]
    simp only [List.length_map, List.length_append]
    congr 1
    omega

/-- A class that is called like a closing line. Its method is called like an opening line, and so is
its base. -/
def disguised : Model where
  types := [
    { name := "\x7d", members := [{ kind := .method, name := "class A \x7b" }],
      base := some { name := "class B \x7b" } },
    { name := "<<interface>>", kind := .interfaceType }]

/-- The method in the diagram, and what is before and behind it. -/
def disguisedMethod : Excerpt where
  before := (disguised.lines .standard).take 5
  piece := [⟨2, "  class A \x7b()"⟩]
  behind := (disguised.lines .standard).drop 6

theorem lines_nested_disguised :
    disguisedMethod.IsRunOf (disguised.lines .standard) ∧
      ∃ t ∈ disguised.types,
        disguisedMethod.before.getLast? = some ⟨1, "class " ++ t.name ++ " \x7b"⟩ ∧
        disguisedMethod.behind.head? = some ⟨1, "\x7d"⟩ := by
  have hrun : disguisedMethod.IsRunOf (disguised.lines .standard) :=
    ⟨by decide, by decide, by decide, by decide, by decide⟩
  exact ⟨hrun, (disguised.lines_nested .standard).2.1 disguisedMethod hrun⟩

end Model

end ClassDiagram
