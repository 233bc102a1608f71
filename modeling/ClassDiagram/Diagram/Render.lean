import ClassDiagram.Diagram.Edge

/-!
# Class diagrams

A diagram shows a heading, every interface, every class with its visible members, every
enumeration, and then the relationships of the classes that a policy keeps.

* `Model.declarations` are the lines of the types, `Model.edgeLines` those of the relationships;
* `Model.lines` is the whole diagram as lines, `Model.render` as text.
-/

namespace ClassDiagram

namespace TypeSymbol

/-- A type shown by its name and a stereotype alone. -/
def stereotypeBlock (stereotype : String) (t : TypeSymbol) : List Line :=
  [⟨1, "class " ++ t.name ++ " \x7b"⟩, ⟨2, "<<" ++ stereotype ++ ">>"⟩, ⟨1, "\x7d"⟩]

/-- The lines of the visible members: properties first, then methods. -/
def memberLines (t : TypeSymbol) : List Line :=
  t.visibleProperties.map (⟨2, ·.asProperty⟩) ++ t.visibleMethods.map (⟨2, ·.asMethod⟩)

/-- A class shown with its members; without a visible member it takes one line. -/
def classBlock (t : TypeSymbol) : List Line :=
  if t.memberLines = [] then [⟨1, "class " ++ t.name⟩]
  else ⟨1, "class " ++ t.name ++ " \x7b"⟩ :: t.memberLines ++ [⟨1, "\x7d"⟩]

/-- The lines of the relationships of a class that the policy keeps. -/
def edgeLines (p : Policy) (t : TypeSymbol) : List Line :=
  (t.edges.filter p.keeps).map Edge.line

end TypeSymbol

namespace Model

variable (m : Model) (p : Policy)

/-- The line that opens every diagram. -/
def heading : Line := ⟨0, "classDiagram"⟩

/-- The interfaces of a diagram. -/
def interfaceLines : List Line := m.interfaces.flatMap (TypeSymbol.stereotypeBlock "interface")

/-- The classes of a diagram. -/
def classLines : List Line := m.classes.flatMap TypeSymbol.classBlock

/-- The enumerations of a diagram. -/
def enumLines : List Line := m.enums.flatMap (TypeSymbol.stereotypeBlock "enumeration")

/-- The relationships of a diagram. -/
def edgeLines : List Line := m.classes.flatMap (TypeSymbol.edgeLines p)

/-- Everything of a diagram that comes before its relationships. -/
def declarations : List Line := heading :: (m.interfaceLines ++ m.classLines ++ m.enumLines)

/-- The diagram of a model under a policy, line by line. -/
def lines : List Line := m.declarations ++ m.edgeLines p

/-- The diagram of a model under a policy. -/
def render : String := Line.writtenAll (m.lines p)

end Model

end ClassDiagram
