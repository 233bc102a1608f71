import ClassDiagram.CommandLine.Draw
import ClassDiagram.CommandLine.Invocation
import ClassDiagram.Load.File
import ClassDiagram.Text.Console

/-!
# Runs of the program

A run, as a function of the command line and of the files around it.

* `RenderJob` is the drawing of one diagram, `RenderJob.run` does it: it logs its steps, and comes
  to a diagram with the place for it or fails without having changed anything;
* `Run` is what a run leaves behind: an exit code, what was printed and reported, the files, and the
  server that was asked for;
* `Run.ofCommandLine` is the run of a command line, `Run.pathsOf` names the files that matter to it.
-/

namespace ClassDiagram

open CommandLine

/-! ### Drawing -/

/-- The drawing of one diagram. -/
structure RenderJob where
  /-- The path of the snapshot. -/
  snapshot : String
  /-- The path of the filter configuration, if there is one. -/
  filters : Option String
  /-- The path to write to, if the diagram is not to be printed. -/
  output : Option String
deriving DecidableEq, Repr

/-- Why nothing was drawn. -/
inductive RenderFailure where
  /-- A file could not be loaded. -/
  | load (e : LoadError)
  /-- The output cannot be written. -/
  | openOutput (path : String) (fault : OpenFault)

/-- The report of a failure. Those that the program does not expect are introduced as such. -/
def RenderFailure.report : RenderFailure → String
  | load (.undecodable fault) => "An error occurred: " ++ fault.message
  | load e => e.message
  | openOutput path fault => "An error occurred: " ++ fault.message path

/-- A diagram, and the file that it goes to, if any. -/
structure Drawing where
  /-- The diagram. -/
  diagram : String
  /-- The place of the file. -/
  target : Option FilePath
deriving DecidableEq, Repr

namespace RenderJob

variable (job : RenderJob) (t : FileTree)

/-- The policy that a job asks for, with the record of loading it. -/
def loadPolicy : Except LoadError (List LogRecord × Policy) :=
  match job.filters with
  | none => .ok ([], Policy.standard)
  | some path => (t.loadConfig path).map fun c => ([.loadedConfig path], Policy.ofConfig c)

/-- The place that the output of a job goes to. -/
def openOutput : Except RenderFailure (Option FilePath) :=
  match job.output with
  | none => .ok none
  | some path => ((t.openForWriting path).mapError (.openOutput path)).map some

/-- The records of a job so far, and its outcome. -/
def run : List LogRecord × Except RenderFailure Drawing :=
  match t.loadModel job.snapshot with
  | .error e => ([], .error (.load e))
  | .ok m =>
    let loaded := [.loadedSnapshot m.types.length job.snapshot]
    match job.loadPolicy t with
    | .error e => (loaded, .error (.load e))
    | .ok (records, p) =>
      let (diagram, drawn) := (m.draw p).outcome (loaded ++ records)
      match job.openOutput t with
      | .error failure => (drawn, .error failure)
      | .ok target =>
        (drawn ++ job.output.toList.map .wrote, .ok ⟨diagram, target⟩)

end RenderJob

/-! ### Runs -/

/-- The server that a run asks for. -/
structure ServerSettings where
  /-- The application that is served. -/
  app : String
  /-- The address to listen on. -/
  host : String
  /-- The port to listen on. -/
  port : Int
  /-- The server starts again when the program changes. -/
  reload : Bool
deriving DecidableEq, Repr

/-- What a run leaves behind. -/
structure Run where
  /-- The exit code. -/
  exitCode : Nat
  /-- What it printed. -/
  output : String
  /-- What it reported, but for the trace of an unexpected failure that a telling run logs before
  it reports the failure: a trace shows the inside of the program. -/
  errors : String
  /-- The files after it. -/
  files : FileTree
  /-- The server that it asked for. -/
  server : Option ServerSettings

namespace Run

/-- The line that reports success. -/
def success : String := "Class diagram generated successfully.\n"

/-- A path that was given and is not empty. -/
def pathOf (path : Option String) : Option String := path.filter (· ≠ "")

/-- The job with the given settings. -/
def jobOf (snapshot : String) (filters output : Option String) : RenderJob :=
  ⟨snapshot, pathOf filters, pathOf output⟩

/-- The log of a run, if it is to be shown. -/
def logText (verbose : Bool) (records : List LogRecord) : String :=
  if verbose then String.join (records.map LogRecord.line) else ""

/-- The run of a job. -/
def ofJob (verbose : Bool) (job : RenderJob) (t : FileTree) : Run :=
  match job.run t with
  | (records, .error failure) =>
    ⟨1, "", logText verbose records ++ Console.shown failure.report, t, none⟩
  | (records, .ok drawing) =>
    let errors := logText verbose records ++ success
    match drawing.target with
    | none => ⟨0, drawing.diagram, errors, t, none⟩
    | some p => ⟨0, "", errors, t.write p (Utf8.encode drawing.diagram), none⟩

/-- The run of an invocation. -/
def ofInvocation (i : Invocation) (t : FileTree) : Run :=
  match i.command with
  | .render snapshot filters output =>
    ofJob i.verbose (jobOf snapshot filters output) t
  | .serve host port reload => ⟨0, "", "", t, some ⟨"api:app", host, port, reload⟩⟩

/-- The paths of the files that a command line may read or write. -/
def pathsOf (argv : List String) : List String :=
  match Invocation.parse argv with
  | .ok ⟨_, .render snapshot filters output⟩ =>
    snapshot :: ((pathOf filters).toList ++ (pathOf output).toList)
  | _ => []

/-- The run of a command line. -/
def ofCommandLine (argv : List String) (t : FileTree) : Run :=
  match Invocation.parse argv with
  | .error d => ⟨d.exitCode, d.output, d.errors, t, none⟩
  | .ok i => ofInvocation i t

end Run

end ClassDiagram
