import ClassDiagram.Check.Problem
import ClassDiagram.Decimal.Shortest
import ClassDiagram.Text.Quoted

/-!
# Values in messages

How a message shows the value that it is about: texts are quoted, a built value is shown with all
its parts.

* `Json.display` shows a value, `Json.shownInput` its beginning and its end if it is long;
* `Json.kindWord` is the word for the kind of a value;
* `Record.title` is the word for what an object is read as.
-/

namespace ClassDiagram

/-- The word for what an object is read as. -/
def Record.title : Record → String
  | parameter => "Parameter"
  | member => "MemberSymbol"
  | type => "TypeSymbol"
  | model => "SymbolModel"
  | rule => "NamespaceRule"
  | config => "FilterConfig"
  | request => "RenderRequest"

namespace Json

/-- A text as the characters of a message. -/
def shownText (s : String) : List Char := Text.quotedChars s.toList

/-- Shown values with commas between them. -/
def shownList (vs : List (List Char)) : List Char := (", ".toList).intercalate vs

/-- Whether a value is true, in words. -/
def shownFlag (b : Bool) : List Char := (if b then "True" else "False").toList

mutual

/-- The characters that show a value, given how built parts are shown. -/
def shown {ρ : Type} (showReady : ρ → List Char) : Json ρ → List Char
  | null => "None".toList
  | bool b => shownFlag b
  | int n => (toString n).toList
  | float x => (plainDecimals.written x).toList
  | str s => shownText s
  | array items => '[' :: shownList (shownItems showReady items) ++ [']']
  | object fields => '\x7b' :: shownList (shownFields showReady fields) ++ ['\x7d']
  | ready r => showReady r

/-- The characters that show each of some values. -/
def shownItems {ρ : Type} (showReady : ρ → List Char) : List (Json ρ) → List (List Char)
  | [] => []
  | v :: vs => shown showReady v :: shownItems showReady vs

/-- The characters that show each of some fields. -/
def shownFields {ρ : Type} (showReady : ρ → List Char) : List (String × Json ρ) → List (List Char)
  | [] => []
  | (k, v) :: fields =>
    (shownText k ++ ": ".toList ++ shown showReady v) :: shownFields showReady fields

end

end Json

/-! ### Built values -/

/-- A vocabulary whose values are shown with a capitalised word of their own. -/
class Labelled (α : Type) extends Enumeration α where
  /-- The word for the vocabulary. -/
  vocabulary : String
  /-- The word for a value. -/
  label : α → String

instance : Labelled TypeKind where
  vocabulary := "TypeKind"
  label
    | .interfaceType => "INTERFACE"
    | .classType => "CLASS"
    | .enumType => "ENUM"

instance : Labelled MemberKind where
  vocabulary := "MemberKind"
  label
    | .property => "PROPERTY"
    | .method => "METHOD"

instance : Labelled Visibility where
  vocabulary := "Visibility"
  label
    | .publicAccess => "PUBLIC"
    | .protectedAccess => "PROTECTED"
    | .protectedAndInternal => "PROTECTED_AND_INTERNAL"
    | .protectedOrInternal => "PROTECTED_OR_INTERNAL"
    | .privateAccess => "PRIVATE"
    | .internalAccess => "INTERNAL"
    | .unspecified => "UNSPECIFIED"

instance : Labelled Origin where
  vocabulary := "Origin"
  label
    | .userDefined => "USER_DEFINED"
    | .framework => "FRAMEWORK"

instance : Labelled SpecialType where
  vocabulary := "SpecialType"
  label
    | .object => "OBJECT"
    | .delegate => "DELEGATE"
    | .multicastDelegate => "MULTICAST_DELEGATE"
    | .enum => "ENUM"
    | .nullable => "NULLABLE"
    | .disposable => "DISPOSABLE"
    | .enumerable => "ENUMERABLE"
    | .enumerator => "ENUMERATOR"
    | .genericCollection => "GENERIC_COLLECTION"
    | .genericEnumerable => "GENERIC_ENUMERABLE"
    | .genericEnumerator => "GENERIC_ENUMERATOR"
    | .genericList => "GENERIC_LIST"
    | .readOnlyCollection => "READ_ONLY_COLLECTION"
    | .readOnlyList => "READ_ONLY_LIST"

namespace Display

/-- A value of a vocabulary. -/
def choice {α : Type} [Labelled α] (a : α) : List Char :=
  "<".toList ++ (Labelled.vocabulary α).toList ++ ".".toList ++ (Labelled.label a).toList
    ++ ": ".toList ++ Json.shownText (Enumeration.name a) ++ ">".toList

/-- A sequence of parts; a comma follows a single one. -/
def parts : List (List Char) → List Char
  | [p] => '(' :: p ++ ",)".toList
  | ps => '(' :: Json.shownList ps ++ [')']

/-- A record with its fields. -/
def record (r : Record) (fields : List (String × List Char)) : List Char :=
  r.title.toList ++ '(' :: Json.shownList (fields.map fun f => f.1.toList ++ '=' :: f.2) ++ [')']

/-- A parameter. -/
def parameter (p : Parameter) : List Char :=
  record .parameter [("name", Json.shownText p.name), ("type_name", Json.shownText p.typeName)]

/-- A member. -/
def member (m : Member) : List Char :=
  record .member [("member_kind", choice m.kind), ("name", Json.shownText m.name),
    ("type_name", Json.shownText m.typeName), ("visibility", choice m.visibility),
    ("is_static", Json.shownFlag m.isStatic), ("is_implicit", Json.shownFlag m.isImplicit),
    ("is_accessor", Json.shownFlag m.isAccessor),
    ("parameters", parts (m.parameters.map parameter))]

mutual

/-- A type. -/
def type : TypeSymbol → List Char
  | ⟨name, kind, namespaceName, origin, special, members, interfaces, base⟩ =>
    record .type [("name", Json.shownText name), ("kind", choice kind),
      ("namespace", Json.shownText namespaceName), ("origin", choice origin),
      ("special", special.elim "None".toList choice), ("members", parts (members.map member)),
      ("implemented_interfaces", parts (types interfaces)), ("base_type", optionalType base)]

/-- Each of some types. -/
def types : List TypeSymbol → List (List Char)
  | [] => []
  | t :: ts => type t :: types ts

/-- A type, or none. -/
def optionalType : Option TypeSymbol → List Char
  | none => "None".toList
  | some t => type t

end

/-- A tag in a draft: one of the vocabulary where it is one. -/
def draftTag : Document → List Char
  | .str s => ((Enumeration.ofName? SpecialType s).map choice).getD (Json.shownText s)
  | v => Json.shown Empty.elim v

/-- The tags of a draft. -/
def draftTags : Document → List Char
  | .array vs => '[' :: Json.shownList (vs.map draftTag) ++ [']']
  | v => draftTag v

/-- A draft of a configuration. -/
def draft (d : DraftConfig) : List Char :=
  record .config [("framework_namespaces", Json.shown Empty.elim d.frameworkNamespaces),
    ("special_base_types", draftTags d.specialBases),
    ("special_interfaces", draftTags d.specialInterfaces)]

/-- Any built value. -/
def built : Built → List Char
  | .parameter p => parameter p
  | .member m => member m
  | .type t => type t
  | .model m => record .model [("types", parts (m.types.map type))]
  | .rule r => record .rule [("prefix", Json.shownText r.pattern)]
  | .config d => draft d

end Display

namespace Json

variable {ρ : Type} [Holds ρ]

/-- A value as a message shows it. -/
def display (v : Json ρ) : String := String.ofList (v.shown fun r => Display.built (Holds.built r))

/-- A value as a message shows it, shortened if it is long. -/
def shownInput (v : Json ρ) : String := Text.clipped v.display

/-- The word for the kind of a value. -/
def kindWord : Json ρ → String
  | null => "NoneType"
  | bool _ => "bool"
  | int _ => "int"
  | float _ => "float"
  | str _ => "str"
  | array _ => "list"
  | object _ => "dict"
  | ready r => (Holds.built r).record.title

end Json

end ClassDiagram
