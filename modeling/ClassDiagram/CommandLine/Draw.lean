import ClassDiagram.CommandLine.Log
import ClassDiagram.Diagram.Render

/-!
# Drawing with a log

A run that draws a diagram can tell what it leaves out. It asks the policy about each relationship
when its turn comes, and a relationship that is left out is recorded right there.

* `Logged` is a computation that may add records to a log;
* `Policy.ask` asks about one edge, `Policy.drawEdges` draws the edges of a class and
  `Policy.drawClasses` those of several classes;
* `Model.draw` draws a diagram, and `Model.outcome_draw` says what it comes to.
-/

namespace ClassDiagram

/-- A computation that may add records to a log. -/
abbrev Logged := StateM (List LogRecord)

namespace Logged

variable {α β : Type}

/-- Adds a record to the log. -/
def add (r : LogRecord) : Logged Unit := modify (· ++ [r])

/-- What a computation comes to, and the log after it. -/
def outcome (x : Logged α) (log : List LogRecord) : α × List LogRecord := Id.run (x.run log)

@[simp]
theorem outcome_pure (a : α) (log : List LogRecord) : outcome (pure a) log = (a, log) := rfl

@[simp]
theorem outcome_bind (x : Logged α) (f : α → Logged β) (log : List LogRecord) :
    outcome (x >>= f) log = (f (x.outcome log).1).outcome (x.outcome log).2 := rfl

@[simp]
theorem outcome_map (f : α → β) (x : Logged α) (log : List LogRecord) :
    outcome (f <$> x) log = (f (x.outcome log).1, (x.outcome log).2) := rfl

@[simp]
theorem outcome_add (r : LogRecord) (log : List LogRecord) :
    (add r).outcome log = ((), log ++ [r]) := rfl

end Logged

namespace Policy

variable (p : Policy)

/-- Asks whether to keep an edge. That it is left out is recorded. -/
def ask (e : Edge) : Logged Bool := do
  if p.keeps e then
    return true
  else
    Logged.add (.ofEdge e)
    return false

/-- The lines of edges that are drawn one after the other. -/
def drawEdges : List Edge → Logged (List Line)
  | [] => return []
  | e :: es => do
    let kept ← p.ask e
    let ls ← drawEdges es
    return if kept then e.line :: ls else ls

/-- The lines of the edges of classes that are drawn one after the other. -/
def drawClasses : List TypeSymbol → Logged (List Line)
  | [] => return []
  | t :: ts => do
    let ls ← p.drawEdges t.edges
    let rest ← drawClasses ts
    return ls ++ rest

end Policy

/-- The diagram of a model under a policy. How large it has become is recorded at the end. -/
def Model.draw (m : Model) (p : Policy) : Logged String := do
  let edgeLines ← p.drawClasses m.classes
  let lines := m.declarations ++ edgeLines
  Logged.add (.rendered m.types.length lines.length)
  return Line.writtenAll lines

/-! ### What a drawing comes to -/

section

variable (p : Policy) (log : List LogRecord)

@[simp]
theorem Policy.outcome_ask (e : Edge) :
    (p.ask e).outcome log = (p.keeps e, if p.keeps e then log else log ++ [.ofEdge e]) := by
  cases h : p.keeps e <;> simp [ask, h]

/-- Each step draws one edge or adds one record, so that in the end the edges are the lines and the
records, each in order. -/
theorem Policy.outcome_drawEdges (es : List Edge) :
    (p.drawEdges es).outcome log = ((es.filter p.keeps).map Edge.line,
      log ++ (es.filter (!p.keeps ·)).map LogRecord.ofEdge) := by
  induction es generalizing log with
  | nil => simp [drawEdges]
  | cons e es ih =>
    cases h : p.keeps e with
    | true => simp [drawEdges, ih, h]
    | false => simp [drawEdges, ih, h]

theorem Policy.outcome_drawClasses (ts : List TypeSymbol) :
    (p.drawClasses ts).outcome log = (ts.flatMap (TypeSymbol.edgeLines p),
      log ++ ((ts.flatMap TypeSymbol.edges).filter (!p.keeps ·)).map LogRecord.ofEdge) := by
  induction ts generalizing log with
  | nil => simp [drawClasses]
  | cons t ts ih => simp [drawClasses, ih, outcome_drawEdges, TypeSymbol.edgeLines]

/-- Drawing comes to the diagram, and to a record of each edge that the policy leaves out. -/
@[simp]
theorem Model.outcome_draw (m : Model) :
    (m.draw p).outcome log = (m.render p, log ++ (p.suppressed m).map LogRecord.ofEdge ++
      [.rendered m.types.length (m.lines p).length]) := by
  simp [draw, Policy.outcome_drawClasses, render, lines, edgeLines, Policy.suppressed, edges]

end

end ClassDiagram
