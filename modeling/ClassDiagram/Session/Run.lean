import ClassDiagram.Diagram.Render
import ClassDiagram.Load.File
import ClassDiagram.Session.Stored

/-!
# Sessions

A session works on values under names, step by step: it reads and builds them, picks parts of them,
makes policies, assigns to drafts of configurations and to policies, and draws diagrams. A step that
fails changes nothing.

* `Session` is the state, `SessionStep` a step, `SessionFault` a failure;
* `Binding` is what a name stands for: a value, or a document that is held in a cell;
* `Session.perform` performs one step;
* `Session.run` performs steps one after the other.
-/

namespace ClassDiagram

/-- What a name stands for. -/
inductive Binding where
  /-- A value. -/
  | value (v : Stored)
  /-- A document that a cell holds under a name, and that may grow there. -/
  | held (cell : Nat) (field : String)
deriving Inhabited

namespace Binding

/-- The value that a name stands for, given the cells of the session. -/
def current (cells : List Cell) : Binding → Stored
  | value v => v
  | held cell field => .data ((cells[cell]?.map (·.document field)).getD .null)

/-- What a name stands for when a cell is about to hold something else under a name: the document
that it held there stays as it is. -/
def release (cells : List Cell) (cell : Nat) (field : String) : Binding → Binding
  | value v => value v
  | held i f => if i = cell ∧ f = field then value (current cells (held i f)) else held i f

end Binding

/-- The state of a session. -/
structure Session where
  /-- What the names stand for. -/
  names : List (String × Binding) := []
  /-- What may change, each under its number. -/
  cells : List Cell := []
deriving Inhabited

/-- Where the parts of a new value come from: one value or several. -/
inductive Source where
  /-- The value of a name. -/
  | one (name : String)
  /-- The values of some names. -/
  | many (names : List String)
deriving DecidableEq, Repr

/-- What a policy is made of. -/
inductive PolicySource where
  /-- Nothing: the defaults. -/
  | defaults
  /-- The text of a configuration. -/
  | config (text : String)
  /-- Lists of values, as far as they are given. -/
  | values (specialBases specialInterfaces frameworkNamespaces : Option (List Document))
  /-- The draft of a name. -/
  | draft (name : String)

/-- A step of a session. -/
inductive SessionStep where
  /-- Reads a model. -/
  | parse (name text : String)
  /-- Reads a value of any kind. -/
  | validate (name : String) (record : Record) (text : String)
  /-- Builds a value of any kind from plain fields and from values that are there. -/
  | make (name : String) (record : Record) (fields : List (String × Document))
      (sources : List (String × Source))
  /-- Makes a policy. -/
  | policy (name : String) (source : PolicySource)
  /-- Names a part of a value. -/
  | pick (name origin : String) (path : List PathItem)
  /-- Draws a model under a policy, or under the one in force. -/
  | render (model : String) (policy : Option String)
  /-- Lists the names of the types of a model, by kind. -/
  | typeNames (model : String)
  /-- Asks a policy about a type. -/
  | flags (policy type : String)
  /-- Shows a part of a value. -/
  | get (target : String) (path : List PathItem)
  /-- Compares two values. -/
  | equal (first second : String)
  /-- Counts different values. -/
  | distinct (names : List String)
  /-- Assigns to an attribute of a value. -/
  | set (target : String) (path : List PathItem) (a : Attribute) (value : Document)
  /-- Adds an item to a list. -/
  | append (target field : String) (value : Document)

/-- Why a step fails. -/
inductive SessionFault where
  /-- A text is refused. -/
  | load (e : LoadError)
  /-- A text is refused as a record. -/
  | rejected (r : Record) (reason : Rejection)
  /-- A value is refused as a record. -/
  | invalid (r : Record) (problems : List (Problem Built))
  /-- No policy can be made. -/
  | noPolicy (fault : PolicyFault)
  /-- A path leads nowhere. -/
  | noPath (fault : PathFault)
  /-- A name has no value. -/
  | noName (name : String)
  /-- A policy cannot answer. -/
  | noAnswer (fault : AnswerFault)
  /-- A draft has no such part to replace. -/
  | noField (field : String)
  /-- An attribute of a word is kept by a vocabulary. -/
  | kept (vocabulary field : String)
  /-- A value can be no item of a set. -/
  | noSetItem (kind : String)

/-- The wording of a fault. -/
def SessionFault.message : SessionFault → String
  | load e => e.message
  | rejected r reason => reason.report r
  | invalid r problems => Report.ofProblems .memory r problems
  | noPolicy fault => fault.message
  | noPath fault => fault.message
  | noName name => Text.quoted name
  | noAnswer fault => fault.message
  | noField field => "\"FilterConfig\" object has no field \"" ++ field ++ "\""
  | kept vocabulary field =>
    "<enum '" ++ vocabulary ++ "'> cannot set attribute '" ++ field ++ "'"
  | noSetItem kind => "unhashable type: '" ++ kind ++ "'"

namespace Session

variable (s : Session)

/-! ### Values under names -/

/-- What a name stands for, if for anything. -/
def binding? (name : String) : Option Binding := (s.names.find? (·.1 == name)).map (·.2)

/-- The value of a name. -/
def value (name : String) : Except SessionFault Stored :=
  match s.binding? name with
  | some b => .ok (b.current s.cells)
  | none => .error (.noName name)

/-- The part of a value of a name that a path leads to. -/
def part (name : String) (path : List PathItem) : Except SessionFault Stored := do
  ((← s.value name).follow s.cells path).mapError .noPath

/-- The session in which a name stands for something, and no longer for what it stood for. -/
def give (name : String) (b : Binding) : Session :=
  { s with names := (name, b) :: s.names.filter (·.1 != name) }

/-- The values with one more under a name, which no longer has its old value. -/
def bind (name : String) (v : Stored) : Session := s.give name (.value v)

/-- The values with a new cell under a name. -/
def bindCell (name : String) (c : Cell) : Session :=
  { s.bind name (c.stored s.cells.length) with cells := s.cells ++ [c] }

/-- The values with a built one under a name; a configuration becomes a draft. -/
def bindBuilt (name : String) : Built → Session
  | .config d => s.bindCell name (.draft d)
  | b => s.bind name (.built b)

/-- What another name stands for that is given to what a path leads to. A document that a cell holds
may still grow there. -/
def picked (origin : String) (path : List PathItem) (v : Stored) : Binding :=
  match s.binding? origin, path, v with
  | some (.value w), [.part field], .data _ => w.cell?.elim (.value v) (.held · field)
  | some (.held cell field), [], _ => .held cell field
  | _, _, _ => .value v

/-- The model of a name, of which something is wanted that only models have. -/
def model (name wanted : String) : Except SessionFault Model := do
  match ← s.value name with
  | .built (.model m) => return m
  | v => throw (.noPath (.noPart v.kindWord wanted))

/-- The type of a name. -/
def type (name : String) : Except SessionFault TypeSymbol := do
  match ← s.value name with
  | .built (.type t) => return t
  | v => throw (.noPath (.noPart v.kindWord "special"))

/-- The draft in a cell. -/
def draftIn (cell : Nat) : DraftConfig := (s.cells[cell]?.bind Cell.draft?).getD default

/-- The policy in a cell. -/
def policyIn (cell : Nat) : PolicyObject := (s.cells[cell]?.bind Cell.policy?).getD default

/-- The policy of a name. -/
def policyOf (name : String) : Except SessionFault PolicyObject := do
  match ← s.value name with
  | .policy cell => return s.policyIn cell
  | v => throw (.noPath (.noPart v.kindWord "include_interface_edge"))

/-! ### Building -/

/-- A value of a record from a value with parts that are ready. -/
def build {ρ : Type} [Holds ρ] (r : Record) (v : Json ρ) : Check.Result ρ Built :=
  match r with
  | .parameter => Built.parameter <$> Parameter.ofJson v
  | .member => Built.member <$> Member.ofJson v
  | .type => Built.type <$> TypeSymbol.ofJson v
  | .model => Built.model <$> Model.ofJson v
  | .rule => Built.rule <$> NamespaceRule.ofJson v
  | .config => (fun c => Built.config (DraftConfig.ofConfig c)) <$> FilterConfig.ofJson v
  | .request => Check.fault (.notRecord .request) v

/-- The part of a new value that comes from other values. -/
def sourceInput : Source → Except SessionFault (Json Built)
  | .one name => do return (← s.value name).toInput s.cells
  | .many names => do return .array ((← names.mapM s.value).map (·.toInput s.cells))

/-- The fields of a new value: plain ones, and then those that come from other values. -/
def inputFields (fields : List (String × Document)) (sources : List (String × Source)) :
    Except SessionFault (List (String × Json Built)) :=
  sources.foldlM (fun known f => do return Json.put f.1 (← s.sourceInput f.2) known)
    (fields.map fun f => (f.1, f.2.lift))

/-- The policy that a source describes at this moment. -/
def policyFrom : PolicySource → Except SessionFault Policy
  | .defaults => .ok Policy.standard
  | .config text => ((FilterConfig.read text).map Policy.ofConfig).mapError (.rejected .config)
  | .values bases interfaces namespaces =>
    (Policy.ofValues bases interfaces namespaces).mapError .noPolicy
  | .draft name => do
    match ← s.value name with
    | .draft cell => (s.draftIn cell).policy.mapError .noPolicy
    | v => throw (.noPath (.noPart v.kindWord "special_base_types"))

/-! ### Assigning -/

/-- The session with one of its cells changed. -/
def edit (cell : Nat) (change : Cell → Cell) : Session :=
  { s with cells := s.cells.modify cell change }

/-- The session in which no name stands any more for what a cell holds under a name: it stands for
the document itself. -/
def release (cell : Nat) (field : String) : Session :=
  { s with names := s.names.map fun e => (e.1, e.2.release s.cells cell field) }

/-- The session with a document assigned to an attribute of what is in a cell. -/
def assign (cell : Nat) (field : String) (value : Document) : Session :=
  (s.release cell field).edit cell (·.assign field value)

/-- Assigns to an attribute of a value. Drafts have their parts replaced, and policies whatever is
asked for. Built values are frozen, but like drafts they take private attributes, and words take any
that no vocabulary keeps. None of these is seen in the value. -/
def replace (target : Stored) (a : Attribute) (value : Document) : Except SessionFault Session :=
  match target with
  | .draft cell =>
    if a.isPrivate then .ok s
    else if (ConfigPart.ofField? a.name).isSome then .ok (s.assign cell a.name value)
    else .error (.noField a.name)
  | .policy cell => .ok (s.assign cell a.name value)
  | .built b =>
    if a.isPrivate then .ok s
    else .error (.invalid b.record [⟨[.key a.name], .frozen, value.lift⟩])
  | .word w =>
    match w.keeper? a.name with
    | some vocabulary => .error (.kept vocabulary a.name)
    | none => .ok s
  | v => .error (.noPath (.noPart v.kindWord a.name))

/-- Adds an item to a list. A list that is no attribute of a cell was made to be shown, and is gone
after the step. -/
def extend (target : Stored) (field : String) (value : Document) :
    Except SessionFault Session := do
  let list ← (target.part s.cells field).mapError .noPath
  match list, target.cell? with
  | .data (.array vs), some cell => return s.edit cell (·.assign field (.array (vs ++ [value])))
  | .data (.array _), none => return s
  | v, _ => throw (.noPath (.noPart v.kindWord "append"))

/-! ### Steps -/

/-- The qualified names of the types of a model, by kind. -/
def typeNamesOf (m : Model) : Document :=
  let names (ts : List TypeSymbol) : Document := .array (ts.map fun t => .str t.qualifiedName)
  .object [("interfaces", names m.interfaces), ("classes", names m.classes),
    ("enums", names m.enums)]

/-- How many of some values are different. -/
def countDistinct : List Stored → Nat
  | [] => 0
  | v :: vs => (if vs.any (v.same s.cells ·) then 0 else 1) + countDistinct vs

/-- Performs one step: the new state and the result of the step. -/
def perform : SessionStep → Except SessionFault (Session × Document)
  | .parse name text => do
    let m ← (Model.parse text "<string>").mapError .load
    return (s.bind name (.built (.model m)), m.toJson)
  | .validate name record text => do
    let b ← (readAs (build record) text).mapError (.rejected record)
    return (s.bindBuilt name b, b.toJson)
  | .make name record fields sources => do
    let input ← s.inputFields fields sources
    let b ← (build record (.object input)).toExcept.mapError (.invalid record)
    return (s.bindBuilt name b, b.toJson)
  | .policy name source => do
    let p ← s.policyFrom source
    return (s.bindCell name (.policy (.made p)), (PolicyObject.made p).toJson)
  | .pick name origin path => do
    let v ← s.part origin path
    return (s.give name (s.picked origin path v), v.toJson s.cells)
  | .render model policy => do
    let m ← s.model model "classes"
    let p ← policy.elim (.ok (.made Policy.standard)) s.policyOf
    return (s, .str (← (p.render m).mapError .noAnswer))
  | .typeNames model => do return (s, typeNamesOf (← s.model model "interfaces"))
  | .flags policy type => do
    let p ← s.policyOf policy
    let t ← s.type type
    return (s, (← (p.flags t).mapError .noAnswer).toJson t)
  | .get target path => do return (s, (← s.part target path).toJson s.cells)
  | .equal first second => do
    let v ← s.value first
    return (s, .bool (v.same s.cells (← s.value second)))
  | .distinct names => do
    let vs ← names.mapM s.value
    match vs.find? Stored.isChangeable with
    | some v => throw (.noSetItem v.kindWord)
    | none => return (s, .int (s.countDistinct vs))
  | .set target path a value => do
    return (← s.replace (← s.part target path) a value, .null)
  | .append target field value => do
    return (← s.extend (← s.value target) field value, .null)

/-- Where no policy is named, the one in force draws. -/
theorem perform_render_none {name : String} {m : Model} (hm : s.model name "classes" = .ok m) :
    s.perform (.render name none) = .ok (s, .str (m.render Policy.standard)) := by
  rw [perform, hm]
  change (do return (s, Json.str (← ((PolicyObject.made Policy.standard).render m).mapError
    SessionFault.noAnswer))) = _
  rw [PolicyObject.render_made]
  rfl

/-- Performs one step; one that fails leaves the session as it is. -/
def step (step : SessionStep) : Session × Except SessionFault Document :=
  match s.perform step with
  | .ok (s', v) => (s', .ok v)
  | .error fault => (s, .error fault)

/-- Performs steps one after the other. -/
def run : Session → List SessionStep → Session × List (Except SessionFault Document)
  | s, [] => (s, [])
  | s, st :: steps =>
    let (s', result) := s.step st
    let (s'', results) := run s' steps
    (s'', result :: results)

end Session

end ClassDiagram
