import ClassDiagram.Report.Message

/-!
# Problems as JSON

A service answers with its problems as JSON objects, one for each.
-/

namespace ClassDiagram

/-- A step as JSON. -/
def Step.toJson : Step → Document
  | key k => .str k
  | index i => .int i

namespace Report

/-- One entry: its code, its place, what is wrong and the value that was found, and what else there
is to say. -/
def jsonEntry (code : String) (path : List Step) (message : String) (input : Document)
    (context : List (String × Document)) : Document :=
  .object ([("type", .str code), ("loc", .array (path.map Step.toJson)), ("msg", .str message),
    ("input", input)] ++ if context.isEmpty then [] else [("ctx", .object context)])

/-- What else there is to say of a cause: the alternatives of a vocabulary. -/
def contextOf : Cause → List (String × Document)
  | .notAmong names => [("expected", .str (quotedAlternatives names))]
  | _ => []

/-- The entry of a problem of a value that stands at the given place. -/
def jsonProblem (place : List Step) (p : Problem Empty) : Document :=
  jsonEntry (p.cause.code .request) (place ++ p.path) (p.cause.message .request) p.input
    (contextOf p.cause)

end Report

end ClassDiagram
