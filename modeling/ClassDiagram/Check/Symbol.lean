import ClassDiagram.Check.Field
import ClassDiagram.Symbol.Distinct

/-!
# Checking symbols

Symbols from JSON: `ofJson` in the namespace of each type. The fields of an object are checked in
their order of declaration, whatever the order of the keys; unknown keys mean nothing. Where JSON
of a symbol may stand, the symbol itself may stand too, if it was built before.

* `Keys` lists the accepted keys of each field, the preferred one first;
* `Parameter.ofJson`, `Member.ofJson`, `TypeSymbol.ofJson` and `Model.ofJson` are the checks.
-/

namespace ClassDiagram

/-! ### Keys -/

namespace Keys

/-- The name of anything. -/
def name : List String := ["name"]

/-- The type of a parameter. -/
def parameterType : List String := ["typeName", "type_name"]

/-- The kind of a member. -/
def memberKind : List String := ["memberKind", "member_kind"]

/-- The value type of a property or the return type of a method. -/
def memberType : List String := ["typeName", "returnTypeName", "type_name", "return_type_name"]

/-- Who may use a member. -/
def visibility : List String := ["visibility"]

/-- A member belongs to the type itself. -/
def isStatic : List String := ["isStatic", "is_static"]

/-- The compiler supplied a member. -/
def isImplicit : List String := ["isImplicit", "is_implicit"]

/-- A member serves a property. -/
def isAccessor : List String := ["isAccessor", "is_accessor"]

/-- The parameters of a member. -/
def parameters : List String := ["parameters"]

/-- The kind of a type. -/
def kind : List String := ["kind"]

/-- The namespace of a type. -/
def namespaceName : List String := ["namespace"]

/-- Where a type comes from. -/
def origin : List String := ["origin"]

/-- The built-in type that a type is. -/
def special : List String := ["special"]

/-- The members of a type. -/
def members : List String := ["members"]

/-- The interfaces of a type. -/
def interfaces : List String := ["implementedInterfaces", "implemented_interfaces"]

/-- The base of a type. -/
def base : List String := ["baseType", "base_type"]

/-- The types of a model. -/
def types : List String := ["types"]

end Keys

/-! ### Checks -/

variable {ρ : Type} [Holds ρ]

/-- A parameter from JSON. -/
def Parameter.ofJson (v : Json ρ) : Check.Result ρ Parameter :=
  match v with
  | .object fields =>
    Parameter.mk
      <$> Check.required fields Keys.name (fun f => Check.text f.1.2)
      <*> Check.optional fields Keys.parameterType "" (fun f => Check.text f.1.2)
  | .ready r =>
    match Holds.built r with
    | .parameter p => pure p
    | _ => Check.fault (.notRecord .parameter) v
  | _ => Check.fault (.notRecord .parameter) v

/-- A member from JSON. -/
def Member.ofJson (v : Json ρ) : Check.Result ρ Member :=
  match v with
  | .object fields =>
    Member.mk
      <$> Check.required fields Keys.memberKind (fun f => Check.choice MemberKind f.1.2)
      <*> Check.required fields Keys.name (fun f => Check.text f.1.2)
      <*> Check.optional fields Keys.memberType "" (fun f => Check.text f.1.2)
      <*> Check.optional fields Keys.visibility .unspecified
        (fun f => Check.choice Visibility f.1.2)
      <*> Check.optional fields Keys.isStatic false (fun f => Check.flag f.1.2)
      <*> Check.optional fields Keys.isImplicit false (fun f => Check.flag f.1.2)
      <*> Check.optional fields Keys.isAccessor false (fun f => Check.flag f.1.2)
      <*> Check.optional fields Keys.parameters [] (fun f => Check.sequence Parameter.ofJson f.1.2)
  | .ready r =>
    match Holds.built r with
    | .member m => pure m
    | _ => Check.fault (.notRecord .member) v
  | _ => Check.fault (.notRecord .member) v

/-- A type with these parts; an interface that is listed again is left out. -/
def TypeSymbol.assemble (name : String) (kind : TypeKind) (namespaceName : String) (origin : Origin)
    (special : Option SpecialType) (members : List Member) (interfaces : List TypeSymbol)
    (base : Option TypeSymbol) : TypeSymbol :=
  ⟨name, kind, namespaceName, origin, special, members, firstOccurrences interfaces, base⟩

/-- A type from JSON. -/
def TypeSymbol.ofJson (v : Json ρ) : Check.Result ρ TypeSymbol :=
  match v with
  | .object fields =>
    TypeSymbol.assemble
      <$> Check.required fields Keys.name (fun f => Check.text f.1.2)
      <*> Check.optional fields Keys.kind .classType (fun f => Check.choice TypeKind f.1.2)
      <*> Check.optional fields Keys.namespaceName "" (fun f => Check.text f.1.2)
      <*> Check.optional fields Keys.origin .userDefined (fun f => Check.choice Origin f.1.2)
      <*> Check.optional fields Keys.special none
        (fun f => Check.nullable f.1.2 (Check.choice SpecialType f.1.2))
      <*> Check.optional fields Keys.members [] (fun f => Check.sequence Member.ofJson f.1.2)
      <*> Check.optional fields Keys.interfaces [] (fun f =>
        Check.parts f.1.2 fun w _ => TypeSymbol.ofJson w)
      <*> Check.optional fields Keys.base none (fun f =>
        Check.nullable f.1.2 (TypeSymbol.ofJson f.1.2))
  | .ready r =>
    match Holds.built r with
    | .type t => pure t
    | _ => Check.fault (.notRecord .type) v
  | _ => Check.fault (.notRecord .type) v
termination_by sizeOf v
decreasing_by
  · rename_i h
    exact Nat.lt_trans h (Json.sizeOf_lt_of_mem_object f.2)
  · exact Json.sizeOf_lt_of_mem_object f.2

/-- The fields of a type; the interfaces are checked as any sequence is. -/
theorem TypeSymbol.ofJson_object (fields : List (String × Json ρ)) :
    ofJson (.object fields) = TypeSymbol.assemble
      <$> Check.required fields Keys.name (fun f => Check.text f.1.2)
      <*> Check.optional fields Keys.kind .classType (fun f => Check.choice TypeKind f.1.2)
      <*> Check.optional fields Keys.namespaceName "" (fun f => Check.text f.1.2)
      <*> Check.optional fields Keys.origin .userDefined (fun f => Check.choice Origin f.1.2)
      <*> Check.optional fields Keys.special none
        (fun f => Check.nullable f.1.2 (Check.choice SpecialType f.1.2))
      <*> Check.optional fields Keys.members [] (fun f => Check.sequence Member.ofJson f.1.2)
      <*> Check.optional fields Keys.interfaces [] (fun f => Check.sequence ofJson f.1.2)
      <*> Check.optional fields Keys.base none
        (fun f => Check.nullable f.1.2 (ofJson f.1.2)) := by
  rw [ofJson]
  simp only [Check.sequence]

/-- A model from JSON. -/
def Model.ofJson (v : Json ρ) : Check.Result ρ Model :=
  match v with
  | .object fields =>
    Model.mk
      <$> Check.optional fields Keys.types [] (fun f => Check.sequence TypeSymbol.ofJson f.1.2)
  | .ready r =>
    match Holds.built r with
    | .model m => pure m
    | _ => Check.fault (.notRecord .model) v
  | _ => Check.fault (.notRecord .model) v

end ClassDiagram
