import ClassDiagram.Report.Display

/-!
# Reports of a failed check

The wording of problems. A value that came from a file, one that was built in memory and one that
came with a request are described in slightly different terms.

* `Channel` is where a value came from;
* `Cause.code` and `Cause.message` are the name of a cause and its description;
* `Report.ofProblems` is the report of all problems of a value, `Report.ofText` that of a text which
  is no JSON value.
-/

namespace ClassDiagram

/-- Where a value came from. -/
inductive Channel where
  /-- From the text of a file. -/
  | file
  /-- From values in memory. -/
  | memory
  /-- From the body of a request. -/
  | request
deriving DecidableEq, Repr, Inhabited

/-- Alternatives, with an "or" before the last one. -/
def alternatives : List String → String
  | [] => ""
  | [a] => a
  | [a, b] => a ++ " or " ++ b
  | a :: as => a ++ ", " ++ alternatives as

/-- The alternatives of a vocabulary, each one quoted. -/
def quotedAlternatives (names : List String) : String := alternatives (names.map Text.quoted)

namespace Cause

/-- The name of a cause. -/
def code (channel : Channel) : Cause → String
  | missing => "missing"
  | notText => "string_type"
  | notFlag => "bool_type"
  | unclearFlag => "bool_parsing"
  | notAmong _ => "enum"
  | notSequence => "tuple_type"
  | notList => "list_type"
  | notRecord _ => match channel with
    | .request => "model_attributes_type"
    | _ => "model_type"
  | frozen => "frozen_instance"

/-- The description of a cause. -/
def message (channel : Channel) : Cause → String
  | missing => "Field required"
  | notText => "Input should be a valid string"
  | notFlag => "Input should be a valid boolean"
  | unclearFlag => "Input should be a valid boolean, unable to interpret input"
  | notAmong names => "Input should be " ++ quotedAlternatives names
  | notSequence => match channel with
    | .file => "Input should be a valid array"
    | _ => "Input should be a valid tuple"
  | notList => match channel with
    | .file => "Input should be a valid array"
    | _ => "Input should be a valid list"
  | notRecord r => match channel with
    | .file => "Input should be an object"
    | .memory => "Input should be a valid dictionary or instance of " ++ r.title
    | .request => "Input should be a valid dictionary or object to extract fields from"
  | frozen => "Instance is frozen"

end Cause

/-- A step as it stands in a report; a key with points in it stands between backquotes. -/
def Step.text : Step → String
  | key k => if '.' ∈ k.toList then "`" ++ k ++ "`" else k
  | index i => toString i

namespace Report

/-- The lines of one problem: its place, unless it is the whole value, what is wrong, and where to
read more. -/
def entry (place : Option String) (description code shown kind : String) : String :=
  place.elim "" (· ++ "\n")
    ++ "  " ++ description ++ " [type=" ++ code ++ ", input_value=" ++ shown
    ++ ", input_type=" ++ kind
    ++ "]\n    For further information visit https://errors.pydantic.dev/2.14/v/" ++ code

/-- The line above the problems. -/
def heading (count : Nat) (title : String) : String :=
  toString count ++ " validation error" ++ (if count = 1 then "" else "s") ++ " for " ++ title

/-- A place as it stands in a report; the whole value is not named. -/
def place : List Step → Option String
  | [] => none
  | path => some (".".intercalate (path.map Step.text))

/-- The report of one problem. -/
def ofProblem {ρ : Type} [Holds ρ] (channel : Channel) (p : Problem ρ) : String :=
  entry (place p.path) (p.cause.message channel) (p.cause.code channel) p.input.shownInput
    p.input.kindWord

/-- The report of all problems of a value that was to be a record. -/
def ofProblems {ρ : Type} [Holds ρ] (channel : Channel) (r : Record) (ps : List (Problem ρ)) :
    String :=
  "\n".intercalate (heading ps.length r.title :: ps.map (ofProblem channel))

/-- The report of a text that was to be a record and is no JSON value, for the given reason. -/
def ofText (r : Record) (reason text : String) : String :=
  heading 1 r.title ++ "\n"
    ++ entry none ("Invalid JSON: " ++ reason) "json_invalid" (Text.clipped (Text.quoted text))
      "str"

end Report

end ClassDiagram
