import ClassDiagram.Filter.Dump

/-!
# Drafts of a configuration

A configuration that is still being edited: its lists may be replaced by any JSON value, or grow by
any JSON value, and nothing is checked until a policy is made of it.

* `DraftConfig` is a draft, `DraftConfig.ofConfig` the draft of a configuration;
* `DraftConfig.get` and `DraftConfig.set` access a part of it.
-/

namespace ClassDiagram

/-- The parts of a configuration. -/
inductive ConfigPart where
  | frameworkNamespaces
  | specialBases
  | specialInterfaces
deriving DecidableEq, Repr, Inhabited

/-- The name under which a part is edited. -/
def ConfigPart.attribute : ConfigPart → String
  | frameworkNamespaces => "framework_namespaces"
  | specialBases => "special_base_types"
  | specialInterfaces => "special_interfaces"

/-- The part with the given name. -/
def ConfigPart.ofField? (name : String) : Option ConfigPart :=
  [frameworkNamespaces, specialBases, specialInterfaces].find? (·.attribute == name)

/-- A configuration that is being edited. -/
structure DraftConfig where
  /-- Namespaces that the framework owns. -/
  frameworkNamespaces : Document
  /-- Tags of base types to leave out. -/
  specialBases : Document
  /-- Tags of interfaces to leave out. -/
  specialInterfaces : Document
deriving Repr, Inhabited

namespace DraftConfig

/-- The draft that says what a configuration says. -/
def ofConfig (c : FilterConfig) : DraftConfig where
  frameworkNamespaces := .array (c.frameworkNamespaces.map .str)
  specialBases := .array (c.specialBases.map Enumeration.toJson)
  specialInterfaces := .array (c.specialInterfaces.map Enumeration.toJson)

/-- One part of a draft. -/
def get (d : DraftConfig) : ConfigPart → Document
  | .frameworkNamespaces => d.frameworkNamespaces
  | .specialBases => d.specialBases
  | .specialInterfaces => d.specialInterfaces

/-- The draft with one part replaced. -/
def set (d : DraftConfig) (part : ConfigPart) (value : Document) : DraftConfig :=
  match part with
  | .frameworkNamespaces => { d with frameworkNamespaces := value }
  | .specialBases => { d with specialBases := value }
  | .specialInterfaces => { d with specialInterfaces := value }

/-- A draft as JSON. -/
def toJson (d : DraftConfig) : Document :=
  .object [("frameworkNamespaces", d.frameworkNamespaces), ("specialBaseTypes", d.specialBases),
    ("specialInterfaces", d.specialInterfaces)]

end DraftConfig

end ClassDiagram
