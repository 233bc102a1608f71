import ClassDiagram.Diagram.Render
import ClassDiagram.Filter.Draft
import ClassDiagram.Report.Display
import ClassDiagram.Session.Sameness

/-!
# Policies as objects

A policy that stands under a name is an object of which every attribute may be assigned to: its
parts, and the questions that it answers. From then on it goes by what was assigned, and may fail to
answer at all.

* `PolicyObject` is a policy with what was assigned to it;
* `AnswerFault` says why such a policy cannot answer;
* `PolicyObject.flags` is what it says about a type, `PolicyObject.render` draws a model under it;
* `PolicyObject.flags_made` and `PolicyObject.render_made` say that one to which nothing was
  assigned answers as the policy.
-/

namespace ClassDiagram

/-- What a policy is asked about a type. -/
inductive Question where
  /-- It carries a tag of a base type to leave out. -/
  | specialBase
  /-- It carries a tag of an interface to leave out. -/
  | specialInterface
  /-- The framework owns it. -/
  | framework
  /-- An edge to it as an interface is kept. -/
  | interfaceEdge
  /-- An edge to it as a base type is kept. -/
  | baseEdge
deriving DecidableEq, Repr

/-- The name of the attribute that answers a question. -/
def Question.attribute : Question → String
  | specialBase => "is_special_base_type"
  | specialInterface => "is_special_interface"
  | framework => "is_framework_owned"
  | interfaceEdge => "include_interface_edge"
  | baseEdge => "include_base_edge"

/-- Why a policy to which something was assigned cannot answer. -/
inductive AnswerFault where
  /-- What was assigned in the place of a question answers nothing. -/
  | noQuestion (v : Document)
  /-- What was assigned in the place of tags has no items to look for. -/
  | noTags (v : Document)
  /-- What was assigned in the place of rules has no items. -/
  | noRules (v : Document)
  /-- An item of what was assigned in the place of rules is no rule. -/
  | noRule (item : Document)

/-- The wording of a fault. -/
def AnswerFault.message : AnswerFault → String
  | noQuestion v => "'" ++ v.kindWord ++ "' object is not callable"
  | noTags v => "argument of type '" ++ v.kindWord ++ "' is not iterable"
  | noRules v => "'" ++ v.kindWord ++ "' object is not iterable"
  | noRule item => "'" ++ item.kindWord ++ "' object has no attribute 'matches'"

/-- A policy with what was assigned to its attributes since it was made. -/
structure PolicyObject where
  /-- The policy as it was made. -/
  policy : Policy
  /-- What was assigned, by the names of the attributes. -/
  assigned : List (String × Document) := []
deriving Repr, Inhabited

/-- What a policy says about a type. -/
structure Policy.Flags where
  /-- The type carries a tag of a base type to leave out. -/
  specialBase : Bool
  /-- The type carries a tag of an interface to leave out. -/
  specialInterface : Bool
  /-- The framework owns the type. -/
  framework : Bool
  /-- An edge to the type as an interface is kept. -/
  interfaceEdge : Bool
  /-- An edge to the type as a base type is kept. -/
  baseEdge : Bool
deriving DecidableEq, Repr

/-- What a policy says about a type. -/
def Policy.flags (p : Policy) (t : TypeSymbol) : Policy.Flags where
  specialBase := p.isSpecialBase t
  specialInterface := p.isSpecialInterface t
  framework := p.isFrameworkOwned t
  interfaceEdge := p.admitsInterface t
  baseEdge := p.admitsBase t

/-- What a policy says about a type, as JSON. -/
def Policy.Flags.toJson (f : Policy.Flags) (t : TypeSymbol) : Document :=
  .object [("qualified_name", .str t.qualifiedName), ("special_base", .bool f.specialBase),
    ("special_interface", .bool f.specialInterface), ("framework", .bool f.framework),
    ("interface_edge", .bool f.interfaceEdge), ("base_edge", .bool f.baseEdge)]

namespace PolicyObject

/-! ### Attributes -/

variable (o : PolicyObject)

/-- The object of a policy that was just made. -/
def made (p : Policy) : PolicyObject := ⟨p, []⟩

/-- What was assigned to an attribute. -/
def assigned? (name : String) : Option Document := Json.get? o.assigned name

/-- The object with a value assigned to an attribute. -/
def assign (name : String) (v : Document) : PolicyObject :=
  { o with assigned := Json.put name v o.assigned }

/-- The rules as JSON, or what was assigned in their place. -/
def toJson : Document :=
  (o.assigned? ConfigPart.frameworkNamespaces.attribute).getD
    (.array (o.policy.frameworkRules.map fun r => .str r.pattern))

/-! ### Answers -/

/-- A word occurs in a text. -/
def occursIn (word : List Char) : List Char → Bool
  | [] => word.isEmpty
  | c :: cs => word.isPrefixOf (c :: cs) || occursIn word cs

/-- A tag is looked for in a value that was assigned in the place of tags: among the items of an
array or the keys of an object, or in a text. -/
def findTag (tag : SpecialType) : Document → Except AnswerFault Bool
  | .array vs => .ok (vs.any (·.same (Enumeration.toJson tag)))
  | .object fields => .ok (fields.any (·.1 == Enumeration.name tag))
  | .str s => .ok (occursIn (Enumeration.name tag).toList s.toList)
  | v => .error (.noTags v)

/-- The items of a value that was assigned in the place of rules are asked about a namespace. None
of them is a rule, so that the first one fails. -/
def askRules : Document → Except AnswerFault Bool
  | .array [] => .ok false
  | .array (v :: _) => .error (.noRule v)
  | .object [] => .ok false
  | .object (field :: _) => .error (.noRule (.str field.1))
  | .str s => if s = "" then .ok false else .error (.noRule (.str s))
  | v => .error (.noRules v)

/-- A question can be asked unless something was assigned in its place. -/
def ask (q : Question) : Except AnswerFault Unit :=
  match o.assigned? q.attribute with
  | some v => .error (.noQuestion v)
  | none => .ok ()

/-- The type carries one of the tags, or one that is found in what was assigned in their place. -/
def carriesTag (part : ConfigPart) (tags : List SpecialType) (t : TypeSymbol) :
    Except AnswerFault Bool :=
  match t.special with
  | none => .ok false
  | some tag => ((o.assigned? part.attribute).map (findTag tag)).getD (.ok (tags.contains tag))

/-- The type carries a tag of a base type to leave out. -/
def isSpecialBase (t : TypeSymbol) : Except AnswerFault Bool := do
  o.ask .specialBase
  o.carriesTag .specialBases o.policy.specialBases t

/-- The type carries a tag of an interface to leave out. -/
def isSpecialInterface (t : TypeSymbol) : Except AnswerFault Bool := do
  o.ask .specialInterface
  o.carriesTag .specialInterfaces o.policy.specialInterfaces t

/-- The framework owns the type. -/
def isFrameworkOwned (t : TypeSymbol) : Except AnswerFault Bool := do
  o.ask .framework
  if t.origin == .framework then
    return true
  ((o.assigned? ConfigPart.frameworkNamespaces.attribute).map askRules).getD
    (.ok (o.policy.frameworkRules.any (·.covers t.namespaceName)))

/-- An edge to the type as an implemented interface is kept. -/
def admitsInterface (t : TypeSymbol) : Except AnswerFault Bool := do
  o.ask .interfaceEdge
  if ← o.isSpecialInterface t then
    return false
  return !(← o.isFrameworkOwned t)

/-- An edge to the type as a base type is kept. -/
def admitsBase (t : TypeSymbol) : Except AnswerFault Bool := do
  o.ask .baseEdge
  if ← o.isSpecialBase t then
    return false
  return !(← o.isFrameworkOwned t)

/-- What the policy says about a type. -/
def flags (t : TypeSymbol) : Except AnswerFault Policy.Flags := do
  return {
    specialBase := ← o.isSpecialBase t
    specialInterface := ← o.isSpecialInterface t
    framework := ← o.isFrameworkOwned t
    interfaceEdge := ← o.admitsInterface t
    baseEdge := ← o.admitsBase t }

/-- The policy keeps the edge. -/
def keeps (e : Edge) : Except AnswerFault Bool :=
  match e.kind with
  | .realization => o.admitsInterface e.target
  | .generalization => o.admitsBase e.target

/-- The lines of the edges that the policy keeps. -/
def edgeLines : List Edge → Except AnswerFault (List Line)
  | [] => return []
  | e :: es => do
    let kept ← o.keeps e
    let ls ← edgeLines es
    return if kept then e.line :: ls else ls

/-- The diagram of a model under the policy. -/
def render (m : Model) : Except AnswerFault String := do
  return Line.writtenAll (m.declarations ++ (← o.edgeLines m.edges))

/-! ### Policies as they were made -/

section

variable (p : Policy) (t : TypeSymbol)

@[simp]
theorem assigned?_made (name : String) : (made p).assigned? name = none := rfl

@[simp]
theorem ask_made (q : Question) : (made p).ask q = .ok () := rfl

@[simp]
theorem isSpecialBase_made : (made p).isSpecialBase t = .ok (p.isSpecialBase t) := by
  rw [isSpecialBase, ask_made, Policy.isSpecialBase, carriesTag]
  cases t.special <;> rfl

@[simp]
theorem isSpecialInterface_made :
    (made p).isSpecialInterface t = .ok (p.isSpecialInterface t) := by
  rw [isSpecialInterface, ask_made, Policy.isSpecialInterface, carriesTag]
  cases t.special <;> rfl

@[simp]
theorem isFrameworkOwned_made : (made p).isFrameworkOwned t = .ok (p.isFrameworkOwned t) := by
  rw [isFrameworkOwned, ask_made, Policy.isFrameworkOwned]
  cases h : t.origin == .framework <;> rfl

@[simp]
theorem admitsInterface_made : (made p).admitsInterface t = .ok (p.admitsInterface t) := by
  rw [admitsInterface, ask_made, Policy.admitsInterface, isSpecialInterface_made,
    isFrameworkOwned_made]
  cases p.isSpecialInterface t <;> rfl

@[simp]
theorem admitsBase_made : (made p).admitsBase t = .ok (p.admitsBase t) := by
  rw [admitsBase, ask_made, Policy.admitsBase, isSpecialBase_made, isFrameworkOwned_made]
  cases p.isSpecialBase t <;> rfl

/-- A policy to which nothing was assigned says what the policy says. -/
theorem flags_made : (made p).flags t = .ok (p.flags t) := by
  simp only [flags, isSpecialBase_made, isSpecialInterface_made, isFrameworkOwned_made,
    admitsInterface_made, admitsBase_made]
  rfl

theorem keeps_made (e : Edge) : (made p).keeps e = .ok (p.keeps e) := by
  rw [keeps, Policy.keeps]
  cases e.kind
  · exact admitsInterface_made p e.target
  · exact admitsBase_made p e.target

theorem edgeLines_made (es : List Edge) :
    (made p).edgeLines es = .ok ((es.filter p.keeps).map Edge.line) := by
  induction es with
  | nil => rfl
  | cons e es ih =>
    rw [edgeLines, keeps_made, ih]
    cases h : p.keeps e <;> simp [h] <;> rfl

/-- A policy to which nothing was assigned draws what the policy draws. -/
theorem render_made (m : Model) : (made p).render m = .ok (m.render p) := by
  have hlines : (m.edges.filter p.keeps).map Edge.line = m.edgeLines p := by
    simp only [Model.edges, Model.edgeLines, List.filter_flatMap, List.map_flatMap]
    rfl
  rw [render, edgeLines_made, hlines]
  rfl

end

end PolicyObject

end ClassDiagram
