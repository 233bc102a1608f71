import ClassDiagram.Json.Basic
import ClassDiagram.Symbol.Basic

/-!
# Symbols as JSON

Every symbol as the JSON object that describes it, with each field present: `toJson` in the
namespace of each type.
-/

namespace ClassDiagram

variable {ρ : Type}

/-- A value of a vocabulary as JSON. -/
def Enumeration.toJson {α : Type} [Enumeration α] (a : α) : Json ρ := .str (Enumeration.name a)

/-- A parameter as JSON. -/
def Parameter.toJson (p : Parameter) : Json ρ :=
  .object [("name", .str p.name), ("typeName", .str p.typeName)]

/-- A member as JSON. -/
def Member.toJson (m : Member) : Json ρ :=
  .object [("memberKind", Enumeration.toJson m.kind), ("name", .str m.name),
    ("typeName", .str m.typeName), ("visibility", Enumeration.toJson m.visibility),
    ("isStatic", .bool m.isStatic), ("isImplicit", .bool m.isImplicit),
    ("isAccessor", .bool m.isAccessor), ("parameters", .array (m.parameters.map Parameter.toJson))]

mutual

/-- A type as JSON. -/
def TypeSymbol.toJson : TypeSymbol → Json ρ
  | ⟨name, kind, namespaceName, origin, special, members, interfaces, base⟩ =>
    .object [("name", .str name), ("kind", Enumeration.toJson kind),
      ("namespace", .str namespaceName), ("origin", Enumeration.toJson origin),
      ("special", special.elim .null Enumeration.toJson),
      ("members", .array (members.map Member.toJson)),
      ("implementedInterfaces", .array (TypeSymbol.listToJson interfaces)),
      ("baseType", TypeSymbol.optionToJson base)]

/-- Each of some types as JSON. -/
def TypeSymbol.listToJson : List TypeSymbol → List (Json ρ)
  | [] => []
  | t :: ts => TypeSymbol.toJson t :: TypeSymbol.listToJson ts

/-- A type as JSON, or null for none. -/
def TypeSymbol.optionToJson : Option TypeSymbol → Json ρ
  | none => .null
  | some t => TypeSymbol.toJson t

end

/-- A model as JSON. -/
def Model.toJson (m : Model) : Json ρ := .object [("types", .array (m.types.map TypeSymbol.toJson))]

end ClassDiagram
