import ClassDiagram.Text.Quoted

/-!
# File trees

The files around a run of the program, as a value: a file system of which some files and directories
are known, and a working directory in it. A path is a text; it is followed name by name, from the
root if it starts with a slash and else from the working directory.

* `FileTree.locate` follows a path;
* `FileTree.fileAt?` is the content of the file at a path;
* `FileTree.openForWriting` finds the file that a path would write, `FileTree.write` writes it.
-/

namespace ClassDiagram

/-- What has a name in a directory. -/
inductive FileEntry where
  /-- A file with its bytes. -/
  | file (bytes : List UInt8)
  /-- A directory; what it holds has entries of its own. -/
  | directory
deriving DecidableEq, Repr

/-- The names on the way from the root to a file or a directory. -/
abbrev FilePath := List String

/-- Files and directories, and a working directory among them. -/
structure FileTree where
  /-- The way to the working directory. -/
  workDir : FilePath
  /-- Files and directories, each with the way to it. -/
  entries : List (FilePath × FileEntry)
deriving DecidableEq, Repr

/-- Why a path cannot be written. -/
inductive OpenFault where
  /-- Something on the way does not exist. -/
  | notFound
  /-- Something on the way is no directory. -/
  | notDirectory
  /-- The path leads to a directory. -/
  | isDirectory
  /-- A name is too long. -/
  | nameTooLong
  /-- No path contains a null character. -/
  | nullCharacter
deriving DecidableEq, Repr

/-- The wording of a fault of a path. -/
def OpenFault.message (path : String) : OpenFault → String
  | notFound => "[Errno 2] No such file or directory: " ++ Text.quoted path
  | notDirectory => "[Errno 20] Not a directory: " ++ Text.quoted path
  | isDirectory => "[Errno 21] Is a directory: " ++ Text.quoted path
  | nameTooLong => "[Errno 36] File name too long: " ++ Text.quoted path
  | nullCharacter => "embedded null byte"

namespace FileTree

variable (t : FileTree)

/-- What stands at the end of a way. A directory also stands where something lies below. -/
def entry? (p : FilePath) : Option FileEntry :=
  if p.isPrefixOf t.workDir then some .directory
  else match t.entries.find? (·.1 == p) with
    | some e => some e.2
    | none => if t.entries.any fun e => p.isPrefixOf e.1 then some .directory else none

/-- The pieces of a path between its slashes. -/
def pieces : List Char → List (List Char)
  | [] => [[]]
  | c :: cs =>
    if c = '/' then [] :: pieces cs
    else match pieces cs with
      | [] => [[c]]
      | p :: ps => (c :: p) :: ps

/-- The names of a path; doubled slashes mean no more than one. -/
def names (path : String) : List String :=
  ((pieces path.toList).filter (· ≠ [])).map String.ofList

/-- A path that starts at the root of the file system. -/
def isAbsolute (path : String) : Bool := path.toList.head? = some '/'

/-- A path that ends with a slash. -/
def endsWithSlash (path : String) : Bool := path.toList.getLast? = some '/'

/-- The most bytes of a name. -/
def maxNameBytes : Nat := 255

/-- The most bytes of a path. -/
def maxPathBytes : Nat := 4095

/-- Follows one name from a directory; nothing lies above the root. -/
def enter (here : FilePath) (name : String) : Except OpenFault FilePath :=
  match t.entry? here with
  | some .directory =>
    if name = "." then .ok here
    else if name = ".." then .ok here.dropLast
    else if maxNameBytes < name.utf8ByteSize then .error .nameTooLong
    else .ok (here ++ [name])
  | some (.file _) => .error .notDirectory
  | none => .error .notFound

/-- Where a path leads, whether or not something is there. -/
def locate (path : String) : Except OpenFault FilePath :=
  if '\x00' ∈ path.toList then .error .nullCharacter
  else if path = "" then .error .notFound
  else if maxPathBytes < path.utf8ByteSize then .error .nameTooLong
  else (names path).foldlM t.enter (if isAbsolute path then [] else t.workDir)

/-- The bytes of the file at a path, if there is a file. -/
def fileAt? (path : String) : Option (List UInt8) :=
  match t.locate path with
  | .error _ => none
  | .ok p =>
    match t.entry? p with
    | some (.file bytes) => if endsWithSlash path then none else some bytes
    | _ => none

/-- The place of the file that a path would write: one that is there, or a new one. -/
def openForWriting (path : String) : Except OpenFault FilePath := do
  let p ← t.locate path
  if endsWithSlash path || t.entry? p matches some .directory then .error .isDirectory
  else .ok p

/-- The entries with a file at some place: it takes the place of what was there. -/
def putFile (p : FilePath) (bytes : List UInt8) :
    List (FilePath × FileEntry) → List (FilePath × FileEntry)
  | [] => [(p, .file bytes)]
  | e :: es => if e.1 = p then (p, .file bytes) :: es else e :: putFile p bytes es

/-- The tree with a file of the given bytes at some place. -/
def write (p : FilePath) (bytes : List UInt8) : FileTree :=
  { t with entries := putFile p bytes t.entries }

/-- The files that a later tree has and this one has not, or not with the same bytes. -/
def changes (later : FileTree) : List (FilePath × List UInt8) :=
  later.entries.filterMap fun e =>
    match e.2 with
    | .file bytes => if t.entry? e.1 = some (.file bytes) then none else some (e.1, bytes)
    | .directory => none

/-- The tree with the given files and directories, each at the end of its path from the working
directory. -/
def ofList (workDir : FilePath) (entries : List (String × FileEntry)) : FileTree :=
  ⟨workDir, entries.map fun e => (workDir ++ names e.1, e.2)⟩

end FileTree

end ClassDiagram
