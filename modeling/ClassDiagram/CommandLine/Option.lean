import ClassDiagram.Text.Integer

/-!
# Options and words of a command line

How the words of a command line are told apart, for any program: options with or without a value,
abbreviated or run together, words that stand for themselves, and the separator behind which every
word stands for itself.

* `Opt` is an option, `Form` what a command line may look like, `UsageFault` what is wrong with one;
* `Form.classify` tells what a word is;
* `Form.parse` takes a command line apart: a list of settings, in their order.
-/

namespace ClassDiagram.CommandLine

/-! ### What a command line may look like -/

/-- What follows an option. -/
inductive Arity where
  /-- Nothing: the option asks for help. -/
  | help
  /-- Nothing. -/
  | flag
  /-- A word. -/
  | word
  /-- A whole number. -/
  | number
deriving DecidableEq, Repr

/-- An option, called `key` in the program. -/
structure Opt (κ : Type) where
  /-- What the option is for. -/
  key : κ
  /-- Its spellings. -/
  names : List String
  /-- What follows it. -/
  arity : Arity

/-- What a word that stands for itself is for. -/
inductive Positional where
  /-- There is none. -/
  | none
  /-- It is an argument with the given name. -/
  | argument (name : String)
  /-- It is one of the given commands, and all words behind it belong to the command. -/
  | command (name : String) (choices : List String)
deriving DecidableEq, Repr

/-- What a command line may look like. -/
structure Form (κ : Type) where
  /-- Its options. -/
  options : List (Opt κ)
  /-- Its words. -/
  positional : Positional

/-- What is wrong with a command line. -/
inductive UsageFault where
  /-- An abbreviated option may mean several ones. -/
  | ambiguous (word : String) (candidates : List String)
  /-- An option that takes no value has one. -/
  | uselessValue (option value : String)
  /-- An option that takes a value has none. -/
  | missingValue (option : String)
  /-- An option that takes a number has something else. -/
  | noNumber (option value : String)
  /-- A command is unknown. -/
  | unknownCommand (name word : String) (choices : List String)
  /-- An argument is missing. -/
  | missingArgument (name : String)
  /-- Words have no meaning. -/
  | unrecognized (words : List String)
deriving DecidableEq, Repr

variable {κ : Type}

namespace Opt

/-- An option takes a value. -/
def takesValue (o : Opt κ) : Bool := o.arity = .word || o.arity = .number

/-- All spellings of an option together. -/
def title (o : Opt κ) : String := "/".intercalate o.names

end Opt

/-! ### Telling words apart -/

/-- What stands behind an option in its word. -/
inductive Tail where
  /-- Nothing. -/
  | none
  /-- Some characters, directly. -/
  | joined (cs : List Char)
  /-- An equals sign and some characters. -/
  | assigned (cs : List Char)
deriving DecidableEq, Repr

/-- A use of an option: which one, by a name of a single dash or not, and what stands behind it in
the same word. -/
structure OptUse (κ : Type) where
  /-- The option. -/
  option : Opt κ
  /-- Its name there has a single dash. -/
  short : Bool
  /-- What stands behind it. -/
  tail : Tail

/-- What a word is. -/
inductive WordKind (κ : Type) where
  /-- It stands for itself. -/
  | plain
  /-- It is the separator. -/
  | separator
  /-- It is an option. -/
  | option (u : OptUse κ)
  /-- It looks like an option, but there is none like that. -/
  | unknown

/-- A word of a command line, with what it is. -/
structure Word (κ : Type) where
  /-- The word. -/
  text : String
  /-- What it is. -/
  kind : WordKind κ

/-- The word behind which every word stands for itself. -/
def separator : String := "--"

/-- The spelling has a single dash. -/
def isShort (name : List Char) : Bool := (name.drop 1).head? ≠ some '-'

/-- A word that looks like a negative number. -/
def looksNegative (word : List Char) : Bool :=
  let isDigit (c : Char) : Bool := (Text.digitValue? c).isSome
  let body := if word.getLast? = some '\n' then word.dropLast else word
  match body with
  | '-' :: cs =>
    let fraction := cs.dropWhile isDigit
    match fraction with
    | [] => cs ≠ []
    | '.' :: ds => ds ≠ [] && ds.all isDigit
    | _ => false
  | _ => false

namespace Form

variable (f : Form κ)

/-- Every spelling of every option, in their order. -/
def spellings : List (String × Opt κ) := f.options.flatMap fun o => o.names.map (·, o)

/-- The option with a spelling. -/
def named? (name : List Char) : Option (Opt κ) :=
  (f.spellings.find? (·.1.toList == name)).map (·.2)

/-- The part of a word before its first equals sign, and the part behind it if there is one. -/
def splitValue (word : List Char) : List Char × Tail :=
  let name := word.takeWhile (· ≠ '=')
  match word.drop name.length with
  | [] => (name, .none)
  | _ :: value => (name, .assigned value)

/-- The options that a word may abbreviate, each with its spelling and with the value in the word.
A word of two dashes abbreviates the spellings that go on from it; behind a single dash, the first
letter may be an option and the rest its value. -/
def candidates (word : List Char) : List (String × OptUse κ) :=
  if isShort word then
    f.spellings.filterMap fun (name, o) =>
      if name.toList = word.take 2 then some (name, ⟨o, true, .joined (word.drop 2)⟩)
      else if word.isPrefixOf name.toList then some (name, ⟨o, isShort name.toList, .none⟩)
      else none
  else
    let (start, tail) := splitValue word
    f.spellings.filterMap fun (name, o) =>
      if start.isPrefixOf name.toList then some (name, ⟨o, isShort name.toList, tail⟩) else none

/-- An option that a word spells in full, with a value behind an equals sign or without. -/
def spelt? (word : List Char) : Option (OptUse κ) :=
  match f.named? word with
  | some o => some ⟨o, isShort word, .none⟩
  | none =>
    let (name, tail) := splitValue word
    match tail, f.named? name with
    | .assigned value, some o => some ⟨o, isShort name, .assigned value⟩
    | _, _ => none

/-- What a word before the separator is. -/
def classifyWord (text : String) : Except UsageFault (WordKind κ) :=
  let word := text.toList
  if word.head? ≠ some '-' || word.length = 1 then .ok .plain
  else match f.spelt? word with
    | some u => .ok (.option u)
    | none =>
      match f.candidates word with
      | [(_, u)] => .ok (.option u)
      | [] => .ok (if looksNegative word || ' ' ∈ word then .plain else .unknown)
      | cs => .error (.ambiguous text (cs.map (·.1)))

/-- What each word of a command line is. -/
def classify : List String → Except UsageFault (List (Word κ))
  | [] => .ok []
  | w :: ws =>
    if w = separator then .ok (⟨w, .separator⟩ :: ws.map (⟨·, .plain⟩))
    else do
      let kind ← f.classifyWord w
      let words ← classify ws
      return ⟨w, kind⟩ :: words

/-! ### Taking a command line apart -/

/-- A setting: an option, with its value as a text if it takes one. -/
abbrev Event (κ : Type) := Opt κ × Option String

/-- What one use of an option comes to. -/
structure Reading (κ : Type) where
  /-- The settings, in their order. -/
  events : List (Event κ)
  /-- Letters that are no options, as a word. -/
  extras : List String
  /-- How many of the words behind it are a value. -/
  taken : Nat

/-- What a use comes to when another option without a value stands before it in its word. -/
def Reading.behind (o : Opt κ) (r : Reading κ) : Reading κ :=
  { r with events := (o, none) :: r.events }

/-- An option whose word ends with it. -/
def readAlone (o : Opt κ) (next : List (Word κ)) : Except UsageFault (Reading κ) :=
  if o.takesValue then
    match next with
    | ⟨text, .plain⟩ :: _ => .ok ⟨[(o, some text)], [], 1⟩
    | _ => .error (.missingValue o.title)
  else .ok ⟨[(o, none)], [], 0⟩

/-- An option with characters behind it in its word: they are its value. An option with a single
dash that takes none may have further options of a single letter there, but not behind an equals
sign. -/
def readWith (next : List (Word κ)) (o : Opt κ) (short assigned : Bool) :
    List Char → Except UsageFault (Reading κ)
  | [] => if o.takesValue then .ok ⟨[(o, some "")], [], 0⟩ else .error (.uselessValue o.title "")
  | c :: cs =>
    if o.takesValue then .ok ⟨[(o, some (String.ofList (c :: cs)))], [], 0⟩
    else if assigned || !short || c = '-' then
      .error (.uselessValue o.title (String.ofList (c :: cs)))
    else match f.named? ['-', c] with
      | none => .ok ⟨[(o, none)], [String.ofList ('-' :: c :: cs)], 0⟩
      | some o' =>
        Except.map (Reading.behind o) (match cs with
          | [] => readAlone o' next
          | '=' :: ds => readWith next o' true true ds
          | d :: ds => readWith next o' true false (d :: ds))

/-- What one use of an option comes to, given the words behind it. -/
def read (u : OptUse κ) (next : List (Word κ)) : Except UsageFault (Reading κ) :=
  match u.tail with
  | .none => readAlone u.option next
  | .joined cs => f.readWith next u.option u.short false cs
  | .assigned cs => f.readWith next u.option u.short true cs

/-- A word is the separator. -/
def isSeparator (w : Word κ) : Bool := w.kind matches .separator

/-- How many words from the start are the positional part, if it starts there: an argument with the
separator on either side, or a command with everything behind it. -/
def positionalLength? (words : List (Word κ)) : Option Nat :=
  let before := (words.takeWhile isSeparator).length
  match f.positional, words.drop before with
  | .argument _, ⟨_, .plain⟩ :: rest => some (before + 1 + (rest.takeWhile isSeparator).length)
  | .command _ _, ⟨_, .plain⟩ :: _ => some words.length
  | _, _ => none

/-- What a command line says. -/
structure Parsed (κ : Type) where
  /-- The settings, in their order. -/
  events : List (Event κ)
  /-- The words of the positional part. -/
  positional : Option (List String)
  /-- The words without a meaning. -/
  extras : List String

/-- Why a command line is not followed to its end. -/
inductive Stop where
  /-- It asks for help. -/
  | help
  /-- Something is wrong with it. -/
  | fault (u : UsageFault)
deriving DecidableEq, Repr

/-- What settings do at once: help ends everything, and a number has to be one. -/
def checkEvents : List (Event κ) → Except Stop Unit
  | [] => .ok ()
  | (o, value) :: events =>
    match o.arity, value with
    | .help, _ => .error .help
    | .number, some text =>
      if (Text.integer? text).isSome then checkEvents events
      else .error (.fault (.noNumber o.title text))
    | _, _ => checkEvents events

/-- Takes words apart, with what is known from the words before them. -/
def consume (words : List (Word κ)) (known : Parsed κ) : Except Stop (Parsed κ) :=
  match words with
  | [] => .ok known
  | w :: rest =>
    match w.kind with
    | .option u =>
      match f.read u rest with
      | .error fault => .error (.fault fault)
      | .ok r =>
        match checkEvents r.events with
        | .error stop => .error stop
        | .ok () =>
          consume (rest.drop r.taken)
            { known with events := known.events ++ r.events, extras := known.extras ++ r.extras }
    | .unknown => consume rest { known with extras := known.extras ++ [w.text] }
    | _ =>
      match known.positional, f.positionalLength? (w :: rest) with
      | none, some n =>
        consume (rest.drop (n - 1))
          { known with positional := some (((w :: rest).take n).map (·.text)) }
      | _, _ => consume rest { known with extras := known.extras ++ [w.text] }
termination_by words.length

/-- Takes a command line apart. A missing positional part is a fault. -/
def parse (argv : List String) : Except Stop (Parsed κ) := do
  let words ← (f.classify argv).mapError .fault
  let parsed ← f.consume words ⟨[], none, []⟩
  match f.positional, parsed.positional with
  | .argument name, none => .error (.fault (.missingArgument name))
  | .command name _, none => .error (.fault (.missingArgument name))
  | _, _ => .ok parsed

end Form

end ClassDiagram.CommandLine
