import ClassDiagram.Diagram.Line
import ClassDiagram.Filter.Policy

/-!
# Relationship edges

Every class entry of a model offers an edge for each interface that it implements and one for its
base. A policy keeps an edge, and then it is a line of the diagram, or leaves it out, and then
there is a record of that.

* `Edge` is a relationship of a class, kept or not;
* `TypeSymbol.edges` are the edges that one class offers and `Model.edges` those of all classes;
* `Policy.keeps` decides about an edge;
* `Policy.suppressed` are the edges left out of a drawing, in the order in which they are met.
-/

namespace ClassDiagram

/-- How a class is related to another type. -/
inductive EdgeKind where
  /-- It implements the other type. -/
  | realization
  /-- It extends the other type. -/
  | generalization
deriving DecidableEq, Repr, Inhabited

/-- The word for the relationship. -/
def EdgeKind.word : EdgeKind → String
  | .realization => "realization"
  | .generalization => "generalization"

/-- The arrow of the relationship, pointing at the type that is implemented or extended. -/
def EdgeKind.arrow : EdgeKind → String
  | .realization => "<|.."
  | .generalization => "<|--"

/-- A relationship of a class to another type. -/
structure Edge where
  /-- What the relationship is. -/
  kind : EdgeKind
  /-- The type that is implemented or extended. -/
  target : TypeSymbol
  /-- The name of the class. -/
  source : String
deriving Repr, Inhabited

namespace Edge

/-- The edge as a line of a diagram. -/
def line (e : Edge) : Line := ⟨1, e.target.name ++ " " ++ e.kind.arrow ++ " " ++ e.source⟩

end Edge

/-- The edges that a class offers: its interfaces in order, then its base. -/
def TypeSymbol.edges (t : TypeSymbol) : List Edge :=
  t.interfaces.map (⟨.realization, ·, t.name⟩) ++ t.base.toList.map (⟨.generalization, ·, t.name⟩)

/-- The edges that the classes of a model offer, in model order. -/
def Model.edges (m : Model) : List Edge := m.classes.flatMap TypeSymbol.edges

namespace Policy

variable (p : Policy)

/-- The policy keeps the edge. -/
def keeps (e : Edge) : Bool :=
  match e.kind with
  | .realization => p.admitsInterface e.target
  | .generalization => p.admitsBase e.target

/-- The edges of a model that the policy leaves out, in the order in which they are met. -/
def suppressed (m : Model) : List Edge := m.edges.filter (!p.keeps ·)

end Policy

end ClassDiagram
