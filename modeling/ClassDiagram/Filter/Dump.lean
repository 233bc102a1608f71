import ClassDiagram.Filter.Policy
import ClassDiagram.Symbol.Dump

/-!
# Filters as JSON

Rules and configurations as the JSON objects that describe them, with each field present.
-/

namespace ClassDiagram

variable {ρ : Type}

/-- A rule as JSON. -/
def NamespaceRule.toJson (r : NamespaceRule) : Json ρ := .object [("prefix", .str r.pattern)]

/-- A configuration as JSON. -/
def FilterConfig.toJson (c : FilterConfig) : Json ρ :=
  .object [("frameworkNamespaces", .array (c.frameworkNamespaces.map .str)),
    ("specialBaseTypes", .array (c.specialBases.map Enumeration.toJson)),
    ("specialInterfaces", .array (c.specialInterfaces.map Enumeration.toJson))]

end ClassDiagram
