import ClassDiagram.Check.Field

/-!
# Checking filters

Rules and configurations from JSON: `NamespaceRule.ofJson` and `FilterConfig.ofJson`. A part that
a configuration leaves out has its default.
-/

namespace ClassDiagram

namespace Keys

/-- The pattern of a rule. -/
def pattern : List String := ["prefix"]

/-- The namespaces that the framework owns. -/
def frameworkNamespaces : List String := ["frameworkNamespaces", "framework_namespaces"]

/-- The tags of base types to leave out. -/
def specialBases : List String := ["specialBaseTypes", "special_base_types"]

/-- The tags of interfaces to leave out. -/
def specialInterfaces : List String := ["specialInterfaces", "special_interfaces"]

end Keys

variable {ρ : Type} [Holds ρ]

/-- A rule from JSON. -/
def NamespaceRule.ofJson (v : Json ρ) : Check.Result ρ NamespaceRule :=
  match v with
  | .object fields =>
    NamespaceRule.mk <$> Check.required fields Keys.pattern (fun f => Check.text f.1.2)
  | .ready r =>
    match Holds.built r with
    | .rule r => pure r
    | _ => Check.fault (.notRecord .rule) v
  | _ => Check.fault (.notRecord .rule) v

/-- A configuration from JSON. -/
def FilterConfig.ofJson (v : Json ρ) : Check.Result ρ FilterConfig :=
  match v with
  | .object fields =>
    FilterConfig.mk
      <$> Check.optional fields Keys.frameworkNamespaces defaultFrameworkNamespaces
        (fun f => Check.list Check.text f.1.2)
      <*> Check.optional fields Keys.specialBases defaultSpecialBases
        (fun f => Check.list (Check.choice SpecialType) f.1.2)
      <*> Check.optional fields Keys.specialInterfaces defaultSpecialInterfaces
        (fun f => Check.list (Check.choice SpecialType) f.1.2)
  | _ => Check.fault (.notRecord .config) v

end ClassDiagram
