import ClassDiagram.Check.Symbol
import ClassDiagram.Filter.Making
import ClassDiagram.Session.PolicyObject
import ClassDiagram.Session.Word

/-!
# Values of a session

What a session keeps under its names: built values, drafts of configurations, policies, and single
parts of any of them.

* `Stored` is such a value, `Cell` is something that may change, and `Stored.toJson` shows a value
  as JSON;
* `Built.part?` is a part of a built value by its name, `Stored.follow` a part by a path;
* `Stored.toInput` is a value as a part of another one that is to be built;
* `Attribute` is the name of something that may be assigned to.
-/

namespace ClassDiagram

/-- Something that a session keeps. What may change is kept apart, in a cell with a number: several
names may stand for one cell. -/
inductive Stored where
  /-- A built value. -/
  | built (b : Built)
  /-- The draft in a cell. -/
  | draft (cell : Nat)
  /-- The policy in a cell. -/
  | policy (cell : Nat)
  /-- A part without parts of its own, or a part of a draft. -/
  | data (v : Document)
  /-- A value of a vocabulary. -/
  | word (w : Word)
  /-- A part that is a set of tags, in order of their spelling. -/
  | tags (names : List String)
  /-- A part that is a sequence. -/
  | sequence (vs : List Stored)
deriving Repr, Inhabited

/-- Something that may change. -/
inductive Cell where
  /-- A draft of a configuration. -/
  | draft (d : DraftConfig)
  /-- A policy. -/
  | policy (o : PolicyObject)
deriving Repr, Inhabited

/-- The built value of a record as JSON. -/
def Built.toJson : Built → Document
  | parameter p => p.toJson
  | member m => m.toJson
  | type t => t.toJson
  | model m => m.toJson
  | rule r => r.toJson
  | config d => d.toJson

/-- One step of a path through a value. -/
inductive PathItem where
  /-- To the part of a name. -/
  | part (name : String)
  /-- To the item of a number; negative numbers count from the end. -/
  | index (i : Int)
deriving DecidableEq, Repr

/-- Why a path leads nowhere. -/
inductive PathFault where
  /-- There is no part of that name. -/
  | noPart (kind name : String)
  /-- There is no item of that number. -/
  | noItem (kind : String)
  /-- There is no item under a number, but there may be under a text. -/
  | noKey (i : Int)
  /-- There are no items. -/
  | noItems (kind : String)
deriving DecidableEq, Repr

/-- The wording of a fault. -/
def PathFault.message : PathFault → String
  | noPart kind name => "'" ++ kind ++ "' object has no attribute '" ++ name ++ "'"
  | noItem kind => kind ++ " index out of range"
  | noKey i => toString i
  | noItems kind => "'" ++ kind ++ "' object is not subscriptable"

/-- A text as a value of a session. -/
def Stored.text (s : String) : Stored := .data (.str s)

/-- A truth value as a value of a session. -/
def Stored.flag (b : Bool) : Stored := .data (.bool b)

/-! ### Parts of built values -/

/-- A part of a parameter. -/
def Parameter.part? (p : Parameter) : String → Option Stored
  | "name" => some (.text p.name)
  | "type_name" => some (.text p.typeName)
  | _ => none

/-- A part of a member. -/
def Member.part? (m : Member) : String → Option Stored
  | "member_kind" => some (.word (.memberKind m.kind))
  | "name" => some (.text m.name)
  | "type_name" => some (.text m.typeName)
  | "visibility" => some (.word (.visibility m.visibility))
  | "is_static" => some (.flag m.isStatic)
  | "is_implicit" => some (.flag m.isImplicit)
  | "is_accessor" => some (.flag m.isAccessor)
  | "parameters" => some (.sequence (m.parameters.map fun p => .built (.parameter p)))
  | "is_property" => some (.flag m.isProperty)
  | "is_method" => some (.flag m.isMethod)
  | _ => none

/-- A part of a type. -/
def TypeSymbol.part? (t : TypeSymbol) : String → Option Stored
  | "name" => some (.text t.name)
  | "kind" => some (.word (.typeKind t.kind))
  | "namespace" => some (.text t.namespaceName)
  | "origin" => some (.word (.origin t.origin))
  | "special" => some (t.special.elim (.data .null) fun tag => .word (.special tag))
  | "members" => some (.sequence (t.members.map fun m => .built (.member m)))
  | "implemented_interfaces" => some (.sequence (t.interfaces.map fun i => .built (.type i)))
  | "base_type" => some (t.base.elim (.data .null) fun b => .built (.type b))
  | "qualified_name" => some (.text t.qualifiedName)
  | _ => none

/-- A part of a model. -/
def Model.part? (m : Model) : String → Option Stored
  | "types" => some (.sequence (m.types.map fun t => .built (.type t)))
  | _ => none

/-- A part of a rule. -/
def NamespaceRule.part? (r : NamespaceRule) : String → Option Stored
  | "prefix" => some (.text r.pattern)
  | "segments" => some (.data (.array (r.segments.map .str)))
  | _ => none

/-! ### Parts of what may change -/

/-- Tags without repetition, in order of their spelling. -/
def Stored.ofTags (ts : List SpecialType) : Stored :=
  .tags ((Enumeration.names SpecialType).filter (fun n => ts.any (Enumeration.name · == n))
    |>.mergeSort (· ≤ ·))

/-- A part of a policy as it was made. -/
def Policy.part (p : Policy) : ConfigPart → Stored
  | .frameworkNamespaces => .sequence (p.frameworkRules.map fun r => .built (.rule r))
  | .specialBases => .ofTags p.specialBases
  | .specialInterfaces => .ofTags p.specialInterfaces

/-- A part of a policy: what was assigned, or what it was made with. -/
def PolicyObject.part? (o : PolicyObject) (name : String) : Option Stored :=
  match o.assigned? name with
  | some v => some (.data v)
  | none => (ConfigPart.ofField? name).map o.policy.part

/-- A part of a draft. -/
def DraftConfig.part? (d : DraftConfig) (name : String) : Option Stored :=
  (ConfigPart.ofField? name).map fun part => .data (d.get part)

namespace Cell

/-- A part of something that may change. -/
def part? : Cell → String → Option Stored
  | draft d, name => d.part? name
  | policy o, name => o.part? name

/-- The document that is held under a name: a part of a draft, or what was assigned to a policy. -/
def document : Cell → String → Document
  | draft d, name => ((ConfigPart.ofField? name).map d.get).getD .null
  | policy o, name => (o.assigned? name).getD .null

/-- The cell with a document assigned to an attribute. -/
def assign : Cell → String → Document → Cell
  | draft d, name, v => draft ((ConfigPart.ofField? name).elim d (d.set · v))
  | policy o, name, v => policy (o.assign name v)

/-- The cell as JSON. -/
def toJson : Cell → Document
  | draft d => d.toJson
  | policy o => o.toJson

/-- What stands for the cell under its number. -/
def stored : Cell → Nat → Stored
  | draft _, i => .draft i
  | policy _, i => .policy i

theorem stored_assign (c : Cell) (name : String) (v : Document) (i : Nat) :
    (c.assign name v).stored i = c.stored i := by
  cases c <;> rfl

/-- The draft in the cell. -/
def draft? : Cell → Option DraftConfig
  | draft d => some d
  | policy _ => none

/-- The policy in the cell. -/
def policy? : Cell → Option PolicyObject
  | draft _ => none
  | policy o => some o

end Cell

/-! ### Paths -/

/-- A part of a built value. -/
def Built.part? (b : Built) (name : String) : Option Stored :=
  match b with
  | parameter p => p.part? name
  | member m => m.part? name
  | type t => t.part? name
  | model m => m.part? name
  | rule r => r.part? name
  | config d => d.part? name

namespace Stored

/-- The word for the kind of a value. -/
def kindWord : Stored → String
  | built b => b.record.title
  | draft _ => Record.title .config
  | policy _ => "FilterPolicy"
  | data v => v.kindWord
  | word w => w.vocabulary
  | tags _ => "frozenset"
  | sequence _ => "tuple"

/-- The cell that a value stands for. -/
def cell? : Stored → Option Nat
  | draft cell => some cell
  | policy cell => some cell
  | _ => none

/-- The item of a list at a number; negative numbers count from the end. -/
def itemAt {α : Type} (vs : List α) (i : Int) : Option α :=
  if 0 ≤ i then vs[i.toNat]? else if -i ≤ vs.length then vs[(vs.length + i).toNat]? else none

/-- A part of a value, given the cells of the session. -/
def part? (cells : List Cell) (name : String) : Stored → Option Stored
  | built b => b.part? name
  | draft cell | policy cell => cells[cell]?.bind (·.part? name)
  | word w => (w.part? name).map text
  | _ => none

/-- A part of a value by its name. -/
def part (cells : List Cell) (v : Stored) (name : String) : Except PathFault Stored :=
  match v.part? cells name with
  | some w => .ok w
  | none => .error (.noPart v.kindWord name)

/-- The item that was looked for in a value of some kind. -/
def found (kind : String) : Option Stored → Except PathFault Stored
  | some w => .ok w
  | none => .error (.noItem kind)

/-- The character of a text at a number. -/
def charAt (s : String) (i : Int) : Option Stored :=
  (itemAt s.toList i).map fun c => text (String.ofList [c])

/-- An item of a value by its number. -/
def item (v : Stored) (i : Int) : Except PathFault Stored :=
  match v with
  | sequence vs => found "tuple" (itemAt vs i)
  | data (.array vs) => found "list" ((itemAt vs i).map data)
  | data (.str s) => found "string" (charAt s i)
  | word w => found "string" (charAt w.text i)
  | data (.object _) => .error (.noKey i)
  | _ => .error (.noItems v.kindWord)

/-- The part of a value that a path leads to. -/
def follow (cells : List Cell) (v : Stored) : List PathItem → Except PathFault Stored
  | [] => .ok v
  | .part name :: path => do (← v.part cells name).follow cells path
  | .index i :: path => do (← v.item i).follow cells path

/-! ### Views -/

mutual

/-- A value as JSON, given the cells of the session. -/
def toJson (cells : List Cell) : Stored → Document
  | built b => b.toJson
  | draft cell | policy cell => (cells[cell]?.map Cell.toJson).getD .null
  | data v => v
  | word w => .str w.text
  | tags names => .array (names.map .str)
  | sequence vs => .array (allToJson cells vs)

/-- Each of some values as JSON. -/
def allToJson (cells : List Cell) : List Stored → List Document
  | [] => []
  | v :: vs => toJson cells v :: allToJson cells vs

end

mutual

/-- A value as a part of another one that is to be built. Configurations and policies are part of
nothing, and a policy stands there as a configuration, to be refused. -/
def toInput (cells : List Cell) : Stored → Json Built
  | built b => .ready b
  | draft cell => .ready (.config ((cells[cell]?.bind Cell.draft?).getD default))
  | policy _ => .ready (.config default)
  | data v => v.lift
  | word w => .str w.text
  | tags names => .array (names.map .str)
  | sequence vs => .array (allToInput cells vs)

/-- Each of some values as a part of another one that is to be built. -/
def allToInput (cells : List Cell) : List Stored → List (Json Built)
  | [] => []
  | v :: vs => toInput cells v :: allToInput cells vs

end

/-- A value to be compared with others: a draft in the place of its number, and the text of a
word. -/
def settled (cells : List Cell) : Stored → Stored
  | draft cell =>
    ((cells[cell]?.bind Cell.draft?).map fun d => built (.config d)).getD (draft cell)
  | word w => text w.text
  | v => v

mutual

/-- The values are equal part by part. A policy equals itself alone. -/
def alike : Stored → Stored → Bool
  | built b, built c => b.same c
  | draft i, draft j => i == j
  | policy i, policy j => i == j
  | data v, data w => v.same w
  | word v, word w => v == w
  | tags ns, tags ms => ns == ms
  | sequence vs, sequence ws => allAlike vs ws
  | _, _ => false

/-- The values are equal one by one. -/
def allAlike : List Stored → List Stored → Bool
  | [], [] => true
  | v :: vs, w :: ws => alike v w && allAlike vs ws
  | _, _ => false

end

/-- The values are equal as the session stands. -/
def same (cells : List Cell) (v w : Stored) : Bool := (v.settled cells).alike (w.settled cells)

/-- A value that may change in its parts cannot be an item of a set. -/
def isChangeable : Stored → Bool
  | draft _ => true
  | data (.array _) => true
  | data (.object _) => true
  | _ => false

end Stored

/-! ### Attributes -/

/-- The language or a library keeps an attribute of this name to itself. -/
def Attribute.isReserved (name : String) : Bool :=
  let cs := name.toList
  ['_', '_'].isPrefixOf cs || (cs.head? == some '_' && cs.getLast? == some '_')
    || name == "_setattr_handler"

/-- The name of an attribute that may be assigned to. -/
structure Attribute where
  /-- The name. -/
  name : String
  /-- It is not reserved. -/
  free : Attribute.isReserved name = false
deriving DecidableEq, Repr

/-- The attribute is a private one, of which no declaration is needed. -/
def Attribute.isPrivate (a : Attribute) : Bool := a.name.toList.head? == some '_'

end ClassDiagram
