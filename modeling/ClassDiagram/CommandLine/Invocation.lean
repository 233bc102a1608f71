import ClassDiagram.CommandLine.Option
import ClassDiagram.Text.Quoted

/-!
# Invocations of the program

The command line of the program: one command draws the diagram of a snapshot, another one starts
the server.

* `Invocation` is what a command line asks for;
* `Invocation.parse` reads a command line;
* `Dismissal` is the end of a run whose command line is not followed, with its texts.
-/

namespace ClassDiagram.CommandLine

/-! ### Forms -/

/-- The settings of the program as a whole. -/
inductive GeneralKey where
  | help
  | verbose
deriving DecidableEq, Repr

/-- The settings of drawing. -/
inductive RenderKey where
  | help
  | filters
  | output
deriving DecidableEq, Repr

/-- The settings of the server. -/
inductive ServeKey where
  | help
  | host
  | port
  | reload
deriving DecidableEq, Repr

/-- The command line of the program as a whole. -/
def generalForm : Form GeneralKey where
  options := [⟨.help, ["-h", "--help"], .help⟩, ⟨.verbose, ["-v", "--verbose"], .flag⟩]
  positional := .command "cmd" ["render", "serve"]

/-- The command line behind the command that draws. -/
def renderForm : Form RenderKey where
  options := [⟨.help, ["-h", "--help"], .help⟩, ⟨.filters, ["--filters"], .word⟩,
    ⟨.output, ["-o", "--output"], .word⟩]
  positional := .argument "snapshot"

/-- The command line behind the command that starts the server. -/
def serveForm : Form ServeKey where
  options := [⟨.help, ["-h", "--help"], .help⟩, ⟨.host, ["--host"], .word⟩,
    ⟨.port, ["--port"], .number⟩, ⟨.reload, ["--reload"], .flag⟩]
  positional := .none

/-- What a usage line is about. -/
inductive Topic where
  | general
  | render
  | serve
deriving DecidableEq, Repr

namespace Topic

/-- The program, with the command. -/
def program : Topic → String
  | general => "umlgen"
  | render => "umlgen render"
  | serve => "umlgen serve"

/-- The line that sums up how to use it. -/
def usage : Topic → String
  | general => "usage: umlgen [-h] [-v] \x7brender,serve\x7d ...\n"
  | render => "usage: umlgen render [-h] [--filters FILTERS] [-o OUTPUT] snapshot\n"
  | serve => "usage: umlgen serve [-h] [--host HOST] [--port PORT] [--reload]\n"

/-- The help behind the usage line. -/
def details : Topic → String
  | general =>
    "positional arguments:\n" ++
    "  \x7brender,serve\x7d\n" ++
    "    render        Render a class diagram from a symbol snapshot\n" ++
    "    serve         Run FastAPI server\n" ++
    "\n" ++
    "options:\n" ++
    "  -h, --help      show this help message and exit\n" ++
    "  -v, --verbose   Enable debug logging\n"
  | render =>
    "positional arguments:\n" ++
    "  snapshot              Path to the analyzer's JSON symbol snapshot\n" ++
    "\n" ++
    "options:\n" ++
    "  -h, --help            show this help message and exit\n" ++
    "  --filters FILTERS     Path to a JSON filter configuration\n" ++
    "  -o OUTPUT, --output OUTPUT\n" ++
    "                        Write the diagram to this file instead of stdout\n"
  | serve =>
    "options:\n" ++
    "  -h, --help   show this help message and exit\n" ++
    "  --host HOST\n" ++
    "  --port PORT\n" ++
    "  --reload\n"

/-- The whole help. -/
def help (t : Topic) : String := t.usage ++ "\n" ++ t.details

end Topic

/-! ### Reports -/

/-- The wording of a fault. -/
def UsageFault.message : UsageFault → String
  | ambiguous word candidates =>
    "ambiguous option: " ++ word ++ " could match " ++ ", ".intercalate candidates
  | uselessValue option value =>
    "argument " ++ option ++ ": ignored explicit argument " ++ Text.quoted value
  | missingValue option => "argument " ++ option ++ ": expected one argument"
  | noNumber option value => "argument " ++ option ++ ": invalid int value: " ++ Text.quoted value
  | unknownCommand name word choices =>
    "argument " ++ name ++ ": invalid choice: " ++ Text.quoted word ++ " (choose from "
      ++ ", ".intercalate (choices.map Text.quoted) ++ ")"
  | missingArgument name => "the following arguments are required: " ++ name
  | unrecognized words => "unrecognized arguments: " ++ " ".intercalate words

/-- The end of a run whose command line is not followed: it asks for help, or something is wrong
with it. -/
structure Dismissal where
  /-- What the help or the report is about. -/
  topic : Topic
  /-- Why the command line is not followed. -/
  reason : Form.Stop
deriving DecidableEq, Repr

namespace Dismissal

/-- The exit code. -/
def exitCode (d : Dismissal) : Nat :=
  match d.reason with
  | .help => 0
  | .fault _ => 2

/-- What is printed. -/
def output (d : Dismissal) : String :=
  match d.reason with
  | .help => d.topic.help
  | .fault _ => ""

/-- What is reported. -/
def errors (d : Dismissal) : String :=
  match d.reason with
  | .help => ""
  | .fault fault => d.topic.usage ++ d.topic.program ++ ": error: " ++ fault.message ++ "\n"

end Dismissal

/-! ### Invocations -/

/-- What the program is to do. -/
inductive Command where
  /-- To draw the diagram of a snapshot, with a filter configuration, into a file. -/
  | render (snapshot : String) (filters output : Option String)
  /-- To start the server. -/
  | serve (host : String) (port : Int) (reload : Bool)
deriving DecidableEq, Repr

/-- What a command line asks for. -/
structure Invocation where
  /-- Every step is logged. -/
  verbose : Bool
  /-- What is to be done. -/
  command : Command
deriving DecidableEq, Repr

namespace Invocation

/-- The last value of a setting. -/
def lastValue? {κ : Type} [DecidableEq κ] (key : κ) (events : List (Form.Event κ)) :
    Option String :=
  events.foldl (fun value e => if e.1.key = key then e.2 else value) none

/-- A setting occurs. -/
def occurs {κ : Type} [DecidableEq κ] (key : κ) (events : List (Form.Event κ)) : Bool :=
  events.any fun e => e.1.key = key

/-- The argument among the words of a positional part: a separator that came with it is left out. -/
def argumentOf (words : List String) : String := (words.erase separator).headD ""

/-- The host of the server by default. -/
def defaultHost : String := "127.0.0.1"

/-- The port of the server by default. -/
def defaultPort : Int := 8000

/-- What the words behind the command that draws ask for, and the words without a meaning. -/
def parseRender (words : List String) : Except Form.Stop (Command × List String) := do
  let p ← renderForm.parse words
  return (.render (argumentOf (p.positional.getD [])) (lastValue? .filters p.events)
    (lastValue? .output p.events), p.extras)

/-- What the words behind the command that starts the server ask for, and the words without a
meaning. -/
def parseServe (words : List String) : Except Form.Stop (Command × List String) := do
  let p ← serveForm.parse words
  return (.serve ((lastValue? .host p.events).getD defaultHost)
    (((lastValue? .port p.events).bind Text.integer?).getD defaultPort)
    (occurs .reload p.events), p.extras)

/-- What the words of a command and behind it ask for, and the words without a meaning. -/
def parseCommand : List String → Except Dismissal (Command × List String)
  | "render" :: words => (parseRender words).mapError (⟨.render, ·⟩)
  | "serve" :: words => (parseServe words).mapError (⟨.serve, ·⟩)
  | word :: _ => .error ⟨.general, .fault (.unknownCommand "cmd" word ["render", "serve"])⟩
  | [] => .error ⟨.general, .fault (.missingArgument "cmd")⟩

/-- What a command line asks for. -/
def parse (argv : List String) : Except Dismissal Invocation := do
  let p ← (generalForm.parse argv).mapError (⟨.general, ·⟩)
  let (command, extras) ← parseCommand (p.positional.getD [])
  match p.extras ++ extras with
  | [] => return ⟨occurs .verbose p.events, command⟩
  | words => throw ⟨.general, .fault (.unrecognized words)⟩

end Invocation

end ClassDiagram.CommandLine
