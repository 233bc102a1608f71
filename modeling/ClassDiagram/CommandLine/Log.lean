import ClassDiagram.Diagram.Edge

/-!
# Log records

What a run tells about its steps when it is asked to.
-/

namespace ClassDiagram

/-- A step of a run that is worth telling. -/
inductive LogRecord where
  /-- A snapshot was loaded. -/
  | loadedSnapshot (types : Nat) (path : String)
  /-- A filter configuration was loaded. -/
  | loadedConfig (path : String)
  /-- An edge was left out. -/
  | suppressed (kind : EdgeKind) (target : String)
  /-- A diagram was drawn. -/
  | rendered (types lines : Nat)
  /-- A diagram was written to a file. -/
  | wrote (path : String)
deriving DecidableEq, Repr

namespace LogRecord

/-- The record of an edge that was left out. -/
def ofEdge (e : Edge) : LogRecord := .suppressed e.kind e.target.qualifiedName

/-- A record as a line of the log. -/
def line : LogRecord → String
  | loadedSnapshot types path =>
    "INFO umlgen.loader: Loaded " ++ toString types ++ " types from " ++ path ++ "\n"
  | loadedConfig path => "INFO umlgen.loader: Loaded filter configuration from " ++ path ++ "\n"
  | suppressed kind target =>
    "DEBUG umlgen.filters: Suppressing " ++ kind.word ++ " edge to " ++ target ++ "\n"
  | rendered types lines =>
    "DEBUG umlgen.render: Rendered " ++ toString types ++ " types into " ++ toString lines
      ++ " lines\n"
  | wrote path => "INFO umlgen: Wrote diagram to " ++ path ++ "\n"

end LogRecord

end ClassDiagram
