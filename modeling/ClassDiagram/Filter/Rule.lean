import ClassDiagram.Text.Dotted

/-!
# Namespace rules

A rule names a namespace and covers it with everything below it: `System` covers `System` and
`System.Collections`, but not `SystemTools`.

* `NamespaceRule.segments` are the parts of the rule that count;
* `NamespaceRule.covers` decides whether a namespace falls under the rule.
-/

namespace ClassDiagram

/-- A dotted pattern for the namespaces that start with its segments. -/
structure NamespaceRule where
  /-- The pattern as written. -/
  pattern : String
deriving DecidableEq, Repr, Inhabited

namespace NamespaceRule

/-- The non-empty parts of the pattern. Stray points in a pattern mean nothing. -/
def segments (r : NamespaceRule) : List String :=
  (Text.dottedParts r.pattern).filter (· ≠ "")

/-- The namespace starts with the segments of the rule. A rule without segments covers nothing,
and the empty namespace is covered by no rule. The namespace's own empty parts count. -/
def covers (r : NamespaceRule) (ns : String) : Bool :=
  r.segments ≠ [] && ns ≠ "" && r.segments.isPrefixOf (Text.dottedParts ns)

end NamespaceRule

end ClassDiagram
