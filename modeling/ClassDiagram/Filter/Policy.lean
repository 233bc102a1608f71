import ClassDiagram.Symbol.Basic
import ClassDiagram.Filter.Rule

/-!
# Filter policies

A policy decides which relationships of a class are noise. It drops edges and nothing else: a
class is listed whatever the policy thinks of it.

* `FilterConfig` is what a user writes, with the defaults filled in;
* `Policy` is what a diagram is drawn with;
* `Policy.choose` makes a policy from the parts that were given, `Policy.ofConfig` from a
  configuration;
* `Policy.admitsInterface` and `Policy.admitsBase` decide about the target of an edge.
-/

namespace ClassDiagram

/-! ### Defaults -/

/-- The namespaces that the framework owns by default. -/
def defaultFrameworkNamespaces : List String := ["System", "Microsoft"]

/-- The base types that every class has implicitly, in order of their spelling. -/
def defaultSpecialBases : List SpecialType :=
  [.delegate, .enum, .multicastDelegate, .nullable, .object]

/-- The interfaces that are part of the object model, in order of their spelling. -/
def defaultSpecialInterfaces : List SpecialType :=
  [.genericCollection, .disposable, .enumerable, .genericEnumerable, .enumerator,
    .genericEnumerator, .genericList, .readOnlyCollection, .readOnlyList]

/-- A filter configuration: each list is the user's or the default. -/
structure FilterConfig where
  /-- Namespaces that the framework owns. -/
  frameworkNamespaces : List String := defaultFrameworkNamespaces
  /-- Tags of base types to leave out. -/
  specialBases : List SpecialType := defaultSpecialBases
  /-- Tags of interfaces to leave out. -/
  specialInterfaces : List SpecialType := defaultSpecialInterfaces
deriving DecidableEq, Repr, Inhabited

/-- Which relationships are noise. Order and repetition in its lists mean nothing to a diagram. -/
structure Policy where
  /-- Tags of base types to leave out. -/
  specialBases : List SpecialType
  /-- Tags of interfaces to leave out. -/
  specialInterfaces : List SpecialType
  /-- Rules for the namespaces that the framework owns. -/
  frameworkRules : List NamespaceRule
deriving DecidableEq, Repr, Inhabited

namespace Policy

/-- The policy with the given parts; an absent part takes its default, an empty one is empty. -/
def choose (specialBases specialInterfaces : Option (List SpecialType))
    (frameworkNamespaces : Option (List String)) : Policy where
  specialBases := specialBases.getD defaultSpecialBases
  specialInterfaces := specialInterfaces.getD defaultSpecialInterfaces
  frameworkRules := (frameworkNamespaces.getD defaultFrameworkNamespaces).map NamespaceRule.mk

/-- The policy in force when none is asked for. -/
def standard : Policy := choose none none none

/-- The policy that a configuration describes. -/
def ofConfig (c : FilterConfig) : Policy :=
  choose (some c.specialBases) (some c.specialInterfaces) (some c.frameworkNamespaces)

variable (p : Policy)

/-- The type carries a tag of a base type to leave out. -/
def isSpecialBase (t : TypeSymbol) : Bool := t.special.any (p.specialBases.contains ·)

/-- The type carries a tag of an interface to leave out. -/
def isSpecialInterface (t : TypeSymbol) : Bool := t.special.any (p.specialInterfaces.contains ·)

/-- The framework owns the type: by its origin, or by a rule for its namespace. -/
def isFrameworkOwned (t : TypeSymbol) : Bool :=
  t.origin == .framework || p.frameworkRules.any (·.covers t.namespaceName)

/-- An edge to the type as an implemented interface is kept. -/
def admitsInterface (t : TypeSymbol) : Bool := !(p.isSpecialInterface t || p.isFrameworkOwned t)

/-- An edge to the type as a base type is kept. -/
def admitsBase (t : TypeSymbol) : Bool := !(p.isSpecialBase t || p.isFrameworkOwned t)

end Policy

end ClassDiagram
