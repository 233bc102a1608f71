import ClassDiagram.Diagram.Render
import Mathlib.Data.List.Basic

/-!
# Blocks of a diagram

A diagram is its heading and then a sequence of blocks: an interface, a class with its members, an
enumeration, or a relationship. A block knows what the diagram shows, and nothing else.

* `MemberView`, `ClassView` and `EdgeView` are what a diagram shows of members, classes and
  relationships;
* `Block` is a block, `Block.lines` are its lines;
* `Model.blocks` are the blocks of a model under a policy, `Model.lines_eq_blocks` says that their
  lines make up the diagram.
-/

namespace ClassDiagram

/-! ### What a diagram shows -/

/-- What a diagram shows of a member. -/
structure MemberView where
  /-- Whether it is a property or a method. -/
  kind : MemberKind
  /-- The sign of its visibility. -/
  mark : String
  /-- The value type of a property, the return type of a method. -/
  typeName : String
  /-- Its name. -/
  name : String
  /-- It belongs to the type and not to its instances. -/
  isStatic : Bool
deriving DecidableEq, Repr

/-- What a diagram shows of a class. -/
structure ClassView where
  /-- Its name. -/
  name : String
  /-- Its visible properties, in order. -/
  properties : List MemberView
  /-- Its visible methods, in order. -/
  methods : List MemberView
deriving DecidableEq, Repr

/-- What a diagram shows of a relationship. -/
structure EdgeView where
  /-- What the relationship is. -/
  kind : EdgeKind
  /-- The name of the type that is implemented or extended. -/
  target : String
  /-- The name of the class. -/
  source : String
deriving DecidableEq, Repr

/-- What a diagram shows of a member. -/
def Member.view (m : Member) : MemberView :=
  ⟨m.kind, m.visibility.mark, m.typeName, m.name, m.isStatic⟩

/-- What a diagram shows of a class. -/
def TypeSymbol.view (t : TypeSymbol) : ClassView :=
  ⟨t.name, t.visibleProperties.map Member.view, t.visibleMethods.map Member.view⟩

/-- What a diagram shows of a relationship. -/
def Edge.view (e : Edge) : EdgeView := ⟨e.kind, e.target.name, e.source⟩

/-- A block of a diagram. -/
inductive Block where
  /-- An interface of a name. -/
  | ofInterface (name : String)
  /-- A class. -/
  | ofClass (c : ClassView)
  /-- An enumeration of a name. -/
  | ofEnum (name : String)
  /-- A relationship. -/
  | ofEdge (e : EdgeView)
deriving DecidableEq, Repr

/-! ### Lines of blocks -/

namespace MemberView

/-- What stands behind the name of a member: the parentheses of a method, and the sign of a member
that belongs to the type itself. -/
def suffix (v : MemberView) : String :=
  (match v.kind with
    | .property => ""
    | .method => "()") ++ if v.isStatic then "$" else ""

/-- The text of a member. -/
def text (v : MemberView) : String := v.mark ++ v.typeName ++ " " ++ v.name ++ v.suffix

end MemberView

/-- The line that opens the block of a type of some name. -/
def openingLine (name : String) : Line := ⟨1, "class " ++ name ++ " \x7b"⟩

/-- The line that closes the block of a type. -/
def closingLine : Line := ⟨1, "\x7d"⟩

namespace ClassView

/-- The members of a class in the order of the diagram. -/
def members (c : ClassView) : List MemberView := c.properties ++ c.methods

/-- The lines of a class. -/
def lines (c : ClassView) : List Line :=
  if c.members = [] then [⟨1, "class " ++ c.name⟩]
  else openingLine c.name :: c.members.map (⟨2, ·.text⟩) ++ [closingLine]

end ClassView

/-- The line of a relationship. -/
def EdgeView.line (e : EdgeView) : Line := ⟨1, e.target ++ " " ++ e.kind.arrow ++ " " ++ e.source⟩

/-- The lines of a block. -/
def Block.lines : Block → List Line
  | .ofInterface name => [openingLine name, ⟨2, "<<interface>>"⟩, closingLine]
  | .ofClass c => c.lines
  | .ofEnum name => [openingLine name, ⟨2, "<<enumeration>>"⟩, closingLine]
  | .ofEdge e => [e.line]

/-! ### Blocks of a model -/

/-- The relationships of a model that a policy keeps, in the order of the diagram. -/
def Model.keptEdges (m : Model) (p : Policy) : List Edge := m.edges.filter p.keeps

/-- The blocks of the diagram of a model under a policy. -/
def Model.blocks (m : Model) (p : Policy) : List Block :=
  m.interfaces.map (.ofInterface ·.name) ++ m.classes.map (.ofClass ·.view) ++
    m.enums.map (.ofEnum ·.name) ++ (m.keptEdges p).map (.ofEdge ·.view)

theorem Member.text_view_of_isProperty {m : Member} (h : m.isProperty = true) :
    m.view.text = m.asProperty := by
  have hk : m.kind = .property := by simpa [isProperty] using h
  simp [MemberView.text, MemberView.suffix, view, asProperty, staticMark, hk]

theorem Member.text_view_of_isMethod {m : Member} (h : m.isMethod = true) :
    m.view.text = m.asMethod := by
  have hk : m.kind = .method := by simpa [isMethod] using h
  simp [MemberView.text, MemberView.suffix, view, asMethod, staticMark, shownParameters, hk,
    String.append_assoc]

namespace TypeSymbol

variable (t : TypeSymbol)

theorem memberLines_eq_view : t.memberLines = t.view.members.map (⟨2, ·.text⟩) := by
  have hp : ∀ m ∈ t.visibleProperties, m.view.text = m.asProperty := fun m hm =>
    Member.text_view_of_isProperty (by simp_all [visibleProperties])
  have hm : ∀ m ∈ t.visibleMethods, m.view.text = m.asMethod := fun m hm =>
    Member.text_view_of_isMethod (by simp_all [visibleMethods])
  simp only [memberLines, view, ClassView.members, List.map_append, List.map_map]
  congr 1
  · exact List.map_congr_left fun m h => by simp [hp m h]
  · exact List.map_congr_left fun m h => by simp [hm m h]

theorem classBlock_eq_view : t.classBlock = t.view.lines := by
  rw [classBlock, memberLines_eq_view, ClassView.lines]
  simp only [List.map_eq_nil_iff]
  rfl

end TypeSymbol

namespace Model

variable (m : Model) (p : Policy)

theorem edgeLines_eq_map : m.edgeLines p = (m.keptEdges p).map Edge.line := by
  simp only [edgeLines, keptEdges, edges, List.filter_flatMap, List.map_flatMap]
  rfl

/-- A diagram is its heading and its blocks. -/
theorem lines_eq_blocks : m.lines p = heading :: (m.blocks p).flatMap Block.lines := by
  have hi : m.interfaceLines =
      (m.interfaces.map (Block.ofInterface ·.name)).flatMap Block.lines := by
    rw [interfaceLines, List.flatMap_map]; rfl
  have hc : m.classLines = (m.classes.map (Block.ofClass ·.view)).flatMap Block.lines := by
    rw [classLines, List.flatMap_map]
    exact List.flatMap_congr fun t _ => t.classBlock_eq_view
  have he : m.enumLines = (m.enums.map (Block.ofEnum ·.name)).flatMap Block.lines := by
    rw [enumLines, List.flatMap_map]; rfl
  have hr : m.edgeLines p = ((m.keptEdges p).map (Block.ofEdge ·.view)).flatMap Block.lines := by
    rw [edgeLines_eq_map, List.flatMap_map, List.map_eq_flatMap]; rfl
  simp only [lines, declarations, blocks, List.flatMap_append, hi, hc, he, hr, List.cons_append]

end Model

end ClassDiagram
