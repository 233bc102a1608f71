import ClassDiagram.CommandLine.Run

/-!
# The program

The program for the command line: it looks at the files that matter, computes the run, and carries
out what the run leaves behind.
-/

namespace ClassDiagram

/-- The path from the root to the end of a way. -/
def FilePath.text (p : FilePath) : String := "/" ++ "/".intercalate p

/-- What stands at the end of a way on the disk: a file, a directory, or nothing that counts. -/
def FilePath.onDisk (p : FilePath) : IO (Option FileEntry) := do
  let place := (← IO.currentDir) / p.text
  match ← place.metadata.toBaseIO with
  | .error _ => return none
  | .ok data =>
    match data.type with
    | .dir => return some .directory
    | .file => return some (.file (← IO.FS.readBinFile place).toList)
    | _ => return none

namespace FileTree

/-- The tree with what stands on the disk at the end of a way. -/
def look (t : FileTree) (p : FilePath) : IO FileTree := do
  if (t.entry? p).isSome then return t
  match ← p.onDisk with
  | some e => return { t with entries := t.entries ++ [(p, e)] }
  | none => return t

/-- The tree with all that stands on the disk along a path. -/
def lookAlong (path : String) (t : FileTree) : IO FileTree := do
  let mut known := t
  let mut here := if isAbsolute path then [] else t.workDir
  for name in names path do
    match known.enter here name with
    | .error _ => return known
    | .ok next =>
      known ← known.look next
      here := next
  return known

end FileTree

/-- Carries out a run. -/
def Run.perform (before : FileTree) (r : Run) : IO UInt32 := do
  (← IO.getStdout).putStr r.output
  (← IO.getStderr).putStr r.errors
  for (p, bytes) in before.changes r.files do
    IO.FS.writeBinFile p.text (ByteArray.mk bytes.toArray)
  match r.server with
  | none => return UInt32.ofNat r.exitCode
  | some _ => throw (IO.userError "requests are answered by function, not over a network")

/-- The run of a command line on the files of the disk. -/
def Run.onDisk (argv : List String) : IO UInt32 := do
  try
    let mut known : FileTree := ⟨FileTree.names (← IO.currentDir).toString, []⟩
    for path in Run.pathsOf argv do
      known ← known.lookAlong path
    (Run.ofCommandLine argv known).perform known
  catch e =>
    (← IO.getStderr).putStrLn ("An error occurred: " ++ toString e)
    return 1

end ClassDiagram

/-- The program, with the words of its command line. -/
def main (argv : List String) : IO UInt32 := ClassDiagram.Run.onDisk argv
