import ClassDiagram.Check.Filter
import ClassDiagram.Filter.Draft
import ClassDiagram.Report.Message

/-!
# Making policies from unchecked values

A policy may be asked for with values that nobody has checked: tags that are no tags, patterns that
are no texts, or a draft of a configuration in which anything may stand.

* `PolicyFault` says what is wrong with such values, `PolicyFault.message` words it;
* `Policy.ofValues` makes a policy from lists of values;
* `DraftConfig.policy` makes a policy from a draft.
-/

namespace ClassDiagram

/-- Why no policy can be made. -/
inductive PolicyFault where
  /-- A value is no tag. -/
  | unknownTag (v : Document)
  /-- A value is no pattern. -/
  | badPattern (problems : List (Problem Empty))
  /-- A value has no items. -/
  | noItems (v : Document)
  /-- A value can be no item of a set. -/
  | noSetItem (v : Document)

namespace PolicyFault

/-- The wording of a fault. -/
def message : PolicyFault → String
  | unknownTag v => v.display ++ " is not a valid SpecialType"
  | badPattern problems => Report.ofProblems .memory .rule problems
  | noItems v => "'" ++ v.kindWord ++ "' object is not iterable"
  | noSetItem v => "unhashable type: '" ++ v.kindWord ++ "'"

end PolicyFault

/-- The rule whose pattern is the given value. -/
def NamespaceRule.ofPattern {ρ : Type} [Holds ρ] (v : Json ρ) : Check.Result ρ NamespaceRule :=
  NamespaceRule.ofJson (.object [("prefix", v)])

namespace Policy

/-- The pattern that a value is. -/
def patternOf (v : Document) : Except PolicyFault String :=
  ((NamespaceRule.ofPattern v).toExcept.map NamespaceRule.pattern).mapError .badPattern

/-- The tag that a value spells. -/
def tagOf (v : Document) : Except PolicyFault SpecialType :=
  match (Check.choice SpecialType v).result? with
  | some t => .ok t
  | none => .error (.unknownTag v)

/-- The policy with the given parts, each of them absent or a list of values; of several faults the
one of the base types is reported, then that of the interfaces. -/
def ofValues (specialBases specialInterfaces frameworkNamespaces : Option (List Document)) :
    Except PolicyFault Policy := do
  let bases ← specialBases.mapM (·.mapM tagOf)
  let interfaces ← specialInterfaces.mapM (·.mapM tagOf)
  let patterns ← frameworkNamespaces.mapM (·.mapM patternOf)
  return choose bases interfaces patterns

end Policy

namespace DraftConfig

/-- The items of a value: those of an array, the characters of a text, the keys of an object. Null
stands for a part that was not given. -/
def itemsOf : Document → Except PolicyFault (Option (List Document))
  | .null => .ok none
  | .array vs => .ok (some vs)
  | .str s => .ok (some (s.toList.map fun c => .str (String.ofList [c])))
  | .object fields => .ok (some (fields.map fun f => .str f.1))
  | v => .error (.noItems v)

/-- The tag that an item is; an item that is none is kept out, but arrays and objects cannot be
items of a set at all. -/
def tagOfItem : Document → Except PolicyFault (Option SpecialType)
  | .str s => .ok (Enumeration.ofName? SpecialType s)
  | .array vs => .error (.noSetItem (.array vs))
  | .object fields => .error (.noSetItem (.object fields))
  | _ => .ok none

/-- The tags in a part of a draft. -/
def tags (v : Document) : Except PolicyFault (Option (List SpecialType)) := do
  match ← itemsOf v with
  | none => return none
  | some vs => return some ((← vs.mapM tagOfItem).filterMap id)

/-- The policy that a draft describes at this moment. -/
def policy (d : DraftConfig) : Except PolicyFault Policy := do
  let bases ← tags d.specialBases
  let interfaces ← tags d.specialInterfaces
  let patterns ← (← itemsOf d.frameworkNamespaces).mapM (·.mapM Policy.patternOf)
  return Policy.choose bases interfaces patterns

end DraftConfig

end ClassDiagram
