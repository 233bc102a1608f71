import ClassDiagram.Symbol.Enumeration

/-!
# Symbols

What an analyzer reports about one compilation unit: its types, their members, and the types that
they implement or extend.

* `Parameter`, `Member`, `TypeSymbol` and `Model` are the symbols;
* `TypeKind`, `MemberKind`, `Visibility`, `Origin` and `SpecialType` are their vocabularies;
* `Model.interfaces`, `Model.classes` and `Model.enums` are the types of one kind, in model order;
* `TypeSymbol.visibleProperties` and `TypeSymbol.visibleMethods` are the members that a diagram
  shows.
-/

namespace ClassDiagram

/-! ### Vocabularies -/

/-- What a type is declared as. -/
inductive TypeKind where
  | interfaceType
  | classType
  | enumType
deriving DecidableEq, Repr, Inhabited

instance : Enumeration TypeKind where
  values := [.interfaceType, .classType, .enumType]
  name
    | .interfaceType => "Interface"
    | .classType => "Class"
    | .enumType => "Enum"

instance : LawfulEnumeration TypeKind where
  mem_values a := by cases a <;> decide
  eq_of_name_eq a b := by cases a <;> cases b <;> decide

/-- What a member is. -/
inductive MemberKind where
  | property
  | method
deriving DecidableEq, Repr, Inhabited

instance : Enumeration MemberKind where
  values := [.property, .method]
  name
    | .property => "Property"
    | .method => "Method"

instance : LawfulEnumeration MemberKind where
  mem_values a := by cases a <;> decide
  eq_of_name_eq a b := by cases a <;> cases b <;> decide

/-- Who may use a member. -/
inductive Visibility where
  | publicAccess
  | protectedAccess
  | protectedAndInternal
  | protectedOrInternal
  | privateAccess
  | internalAccess
  | unspecified
deriving DecidableEq, Repr, Inhabited

instance : Enumeration Visibility where
  values := [.publicAccess, .protectedAccess, .protectedAndInternal, .protectedOrInternal,
    .privateAccess, .internalAccess, .unspecified]
  name
    | .publicAccess => "Public"
    | .protectedAccess => "Protected"
    | .protectedAndInternal => "ProtectedAndInternal"
    | .protectedOrInternal => "ProtectedOrInternal"
    | .privateAccess => "Private"
    | .internalAccess => "Internal"
    | .unspecified => "Unspecified"

instance : LawfulEnumeration Visibility where
  mem_values a := by cases a <;> decide
  eq_of_name_eq a b := by cases a <;> cases b <;> decide

/-- Where a type comes from. -/
inductive Origin where
  | userDefined
  | framework
deriving DecidableEq, Repr, Inhabited

instance : Enumeration Origin where
  values := [.userDefined, .framework]
  name
    | .userDefined => "userDefined"
    | .framework => "framework"

instance : LawfulEnumeration Origin where
  mem_values a := by cases a <;> decide
  eq_of_name_eq a b := by cases a <;> cases b <;> decide

/-- A built-in type of the object model that the analyzer can tag a type with. -/
inductive SpecialType where
  | object
  | delegate
  | multicastDelegate
  | enum
  | nullable
  | disposable
  | enumerable
  | enumerator
  | genericCollection
  | genericEnumerable
  | genericEnumerator
  | genericList
  | readOnlyCollection
  | readOnlyList
deriving DecidableEq, Repr, Inhabited

instance : Enumeration SpecialType where
  values := [.object, .delegate, .multicastDelegate, .enum, .nullable, .disposable, .enumerable,
    .enumerator, .genericCollection, .genericEnumerable, .genericEnumerator, .genericList,
    .readOnlyCollection, .readOnlyList]
  name
    | .object => "Object"
    | .delegate => "Delegate"
    | .multicastDelegate => "MulticastDelegate"
    | .enum => "Enum"
    | .nullable => "Nullable"
    | .disposable => "IDisposable"
    | .enumerable => "IEnumerable"
    | .enumerator => "IEnumerator"
    | .genericCollection => "ICollection<T>"
    | .genericEnumerable => "IEnumerable<T>"
    | .genericEnumerator => "IEnumerator<T>"
    | .genericList => "IList<T>"
    | .readOnlyCollection => "IReadOnlyCollection<T>"
    | .readOnlyList => "IReadOnlyList<T>"

instance : LawfulEnumeration SpecialType where
  mem_values a := by cases a <;> decide
  eq_of_name_eq a b := by cases a <;> cases b <;> decide

/-! ### Symbols -/

/-- A parameter of a method. -/
structure Parameter where
  /-- Its name. -/
  name : String
  /-- The type written for it. -/
  typeName : String := ""
deriving DecidableEq, Repr, Inhabited

/-- A property or a method. -/
structure Member where
  /-- Whether it is a property or a method. -/
  kind : MemberKind
  /-- Its name. -/
  name : String
  /-- The value type of a property, the return type of a method. -/
  typeName : String := ""
  /-- Who may use it. -/
  visibility : Visibility := .unspecified
  /-- It belongs to the type and not to its instances. -/
  isStatic : Bool := false
  /-- The compiler supplied it. -/
  isImplicit : Bool := false
  /-- It reads or writes a property. -/
  isAccessor : Bool := false
  /-- Its parameters. -/
  parameters : List Parameter := []
deriving DecidableEq, Repr, Inhabited

/-- A type, with the types that it implements and the one that it extends. -/
structure TypeSymbol where
  /-- Its name without the namespace. -/
  name : String
  /-- What it is declared as. -/
  kind : TypeKind := .classType
  /-- Its dotted namespace, empty for none. -/
  namespaceName : String := ""
  /-- Where it comes from. -/
  origin : Origin := .userDefined
  /-- The built-in type that it is, if it is one. -/
  special : Option SpecialType := none
  /-- Its members, in analyzer order. -/
  members : List Member := []
  /-- The interfaces that it implements directly. -/
  interfaces : List TypeSymbol := []
  /-- The type that it extends directly. -/
  base : Option TypeSymbol := none
deriving Repr, Inhabited

namespace TypeSymbol

mutual

/-- Two types are equal, or they are not. -/
def decEq : (t u : TypeSymbol) → Decidable (t = u)
  | ⟨name, kind, space, origin, special, members, interfaces, base⟩,
    ⟨name', kind', space', origin', special', members', interfaces', base'⟩ =>
    have := decEqAll interfaces interfaces'
    have := decEqBase base base'
    decidable_of_iff (name = name' ∧ kind = kind' ∧ space = space' ∧ origin = origin' ∧
      special = special' ∧ members = members' ∧ interfaces = interfaces' ∧ base = base')
      (by rw [mk.injEq])

/-- Two lists of types are equal, or they are not. -/
def decEqAll : (ts us : List TypeSymbol) → Decidable (ts = us)
  | [], [] => .isTrue rfl
  | [], _ :: _ => .isFalse nofun
  | _ :: _, [] => .isFalse nofun
  | t :: ts, u :: us =>
    have := decEq t u
    have := decEqAll ts us
    decidable_of_iff (t = u ∧ ts = us) (by rw [List.cons.injEq])

/-- Two base types are equal, or they are not. -/
def decEqBase : (t u : Option TypeSymbol) → Decidable (t = u)
  | none, none => .isTrue rfl
  | none, some _ => .isFalse nofun
  | some _, none => .isFalse nofun
  | some t, some u =>
    have := decEq t u
    decidable_of_iff (t = u) (by rw [Option.some.injEq])

end

instance : DecidableEq TypeSymbol := decEq

end TypeSymbol

/-- Every type found in one compilation unit, in analyzer order. -/
structure Model where
  /-- The types. -/
  types : List TypeSymbol := []
deriving DecidableEq, Repr, Inhabited

namespace Member

/-- A diagram shows it: neither the compiler supplied it nor does it serve a property. -/
def isVisible (m : Member) : Bool := !m.isImplicit && !m.isAccessor

/-- It is a property. -/
def isProperty (m : Member) : Bool := m.kind == .property

/-- It is a method. -/
def isMethod (m : Member) : Bool := m.kind == .method

end Member

namespace TypeSymbol

/-- The name with the namespace before it, when there is a namespace. -/
def qualifiedName (t : TypeSymbol) : String :=
  if t.namespaceName = "" then t.name else t.namespaceName ++ "." ++ t.name

/-- What tells a type from the other interfaces of one list: its namespace and its name. -/
def identity (t : TypeSymbol) : String × String := (t.namespaceName, t.name)

/-- The properties that a diagram shows, in declaration order. -/
def visibleProperties (t : TypeSymbol) : List Member :=
  t.members.filter fun m => m.isVisible && m.isProperty

/-- The methods that a diagram shows, in declaration order. -/
def visibleMethods (t : TypeSymbol) : List Member :=
  t.members.filter fun m => m.isVisible && m.isMethod

end TypeSymbol

namespace Model

/-- The types of one kind, in model order. -/
def ofKind (m : Model) (k : TypeKind) : List TypeSymbol := m.types.filter (·.kind == k)

/-- The interfaces, in model order. -/
def interfaces (m : Model) : List TypeSymbol := m.ofKind .interfaceType

/-- The classes, in model order. -/
def classes (m : Model) : List TypeSymbol := m.ofKind .classType

/-- The enumerations, in model order. -/
def enums (m : Model) : List TypeSymbol := m.ofKind .enumType

end Model

end ClassDiagram
