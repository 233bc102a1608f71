import ClassDiagram.Load.FileTree
import ClassDiagram.Load.Text
import ClassDiagram.Text.Newline
import ClassDiagram.Text.Utf8

/-!
# Symbols and filters from files

A file is found, its bytes are read as text, line ends become line feeds, and then the text is read.

* `LoadError` says why nothing was loaded, `LoadError.message` words it;
* `Model.parse` reads a model from a text with a name for the reports;
* `FileTree.loadModel` and `FileTree.loadConfig` load a model and a configuration.
-/

namespace ClassDiagram

/-- What is loaded from a file. -/
inductive Resource where
  /-- A snapshot of the symbols of a compilation unit. -/
  | snapshot
  /-- A filter configuration. -/
  | filterConfig
deriving DecidableEq, Repr

/-- What a resource is read as. -/
def Resource.record : Resource → Record
  | snapshot => .model
  | filterConfig => .config

/-- Why nothing was loaded. -/
inductive LoadError where
  /-- There is no such file. -/
  | notFound (r : Resource) (path : String)
  /-- The file is no text. -/
  | undecodable (fault : Utf8.Fault)
  /-- The text is refused. -/
  | rejected (r : Resource) (source : String) (reason : Rejection)

namespace LoadError

/-- The wording of an error. -/
def message : LoadError → String
  | notFound .snapshot path => "The specified file does not exist: " ++ path
  | notFound .filterConfig path => "Filter configuration not found: " ++ path
  | undecodable fault => fault.message
  | rejected .snapshot source reason =>
    "Invalid symbol snapshot " ++ source ++ ": " ++ reason.report .model
  | rejected .filterConfig source reason =>
    "Invalid filter configuration " ++ source ++ ": " ++ reason.report .config

end LoadError

/-- The model that a text describes; reports call the text by its source. -/
def Model.parse (text : String) (source : String) : Except LoadError Model :=
  (Model.read text).mapError (.rejected .snapshot source)

namespace FileTree

variable (t : FileTree)

/-- The text of the file at a path. -/
def textAt (r : Resource) (path : String) : Except LoadError String :=
  match t.fileAt? path with
  | none => .error (.notFound r path)
  | some bytes => ((Utf8.decode bytes).mapError .undecodable).map Text.withLineFeeds

/-- The model that the file at a path describes. -/
def loadModel (path : String) : Except LoadError Model := do
  let text ← t.textAt .snapshot path
  Model.parse text path

/-- The configuration that the file at a path describes. -/
def loadConfig (path : String) : Except LoadError FilterConfig := do
  let text ← t.textAt .filterConfig path
  (FilterConfig.read text).mapError (.rejected .filterConfig path)

end FileTree

end ClassDiagram
