import ClassDiagram.Symbol.Basic

/-!
# Words of a vocabulary

A value of a vocabulary is more than its text: it knows its own name, and it can be told apart from
a text that is spelled the same.

* `Vocabulary` says how a vocabulary is called, and how each of its values;
* `Word` is a value of any vocabulary, `Word.part?` a part of it by its name;
* `Word.keeper?` says to which attributes of a word nobody can assign.
-/

namespace ClassDiagram

/-- A vocabulary whose values have names besides their spelling. -/
class Vocabulary (α : Type) where
  /-- The name of the vocabulary. -/
  title : String
  /-- The name of a value. -/
  constant : α → String

instance : Vocabulary TypeKind where
  title := "TypeKind"
  constant
    | .interfaceType => "INTERFACE"
    | .classType => "CLASS"
    | .enumType => "ENUM"

instance : Vocabulary MemberKind where
  title := "MemberKind"
  constant
    | .property => "PROPERTY"
    | .method => "METHOD"

instance : Vocabulary Visibility where
  title := "Visibility"
  constant
    | .publicAccess => "PUBLIC"
    | .protectedAccess => "PROTECTED"
    | .protectedAndInternal => "PROTECTED_AND_INTERNAL"
    | .protectedOrInternal => "PROTECTED_OR_INTERNAL"
    | .privateAccess => "PRIVATE"
    | .internalAccess => "INTERNAL"
    | .unspecified => "UNSPECIFIED"

instance : Vocabulary Origin where
  title := "Origin"
  constant
    | .userDefined => "USER_DEFINED"
    | .framework => "FRAMEWORK"

instance : Vocabulary SpecialType where
  title := "SpecialType"
  constant
    | .object => "OBJECT"
    | .delegate => "DELEGATE"
    | .multicastDelegate => "MULTICAST_DELEGATE"
    | .enum => "ENUM"
    | .nullable => "NULLABLE"
    | .disposable => "DISPOSABLE"
    | .enumerable => "ENUMERABLE"
    | .enumerator => "ENUMERATOR"
    | .genericCollection => "GENERIC_COLLECTION"
    | .genericEnumerable => "GENERIC_ENUMERABLE"
    | .genericEnumerator => "GENERIC_ENUMERATOR"
    | .genericList => "GENERIC_LIST"
    | .readOnlyCollection => "READ_ONLY_COLLECTION"
    | .readOnlyList => "READ_ONLY_LIST"

/-- A value of some vocabulary. -/
inductive Word where
  | typeKind (k : TypeKind)
  | memberKind (k : MemberKind)
  | visibility (v : Visibility)
  | origin (o : Origin)
  | special (t : SpecialType)
deriving DecidableEq, Repr

namespace Word

/-- What can be said about a value of any vocabulary, said about a word. -/
def about {β : Type} (f : (α : Type) → [Enumeration α] → [Vocabulary α] → α → β) : Word → β
  | typeKind k => f TypeKind k
  | memberKind k => f MemberKind k
  | visibility v => f Visibility v
  | origin o => f Origin o
  | special t => f SpecialType t

/-- The spelling of a word. -/
def text (w : Word) : String := w.about fun _ _ _ a => Enumeration.name a

/-- The name of a word. -/
def constant (w : Word) : String := w.about fun _ _ _ a => Vocabulary.constant a

/-- The name of the vocabulary of a word. -/
def vocabulary (w : Word) : String := w.about fun α _ _ _ => Vocabulary.title α

/-- The names of all words of the vocabulary. -/
def constants (w : Word) : List String :=
  w.about fun α _ _ _ => (Enumeration.values (α := α)).map Vocabulary.constant

/-- A part of a word. -/
def part? (w : Word) : String → Option String
  | "name" => some w.constant
  | "value" => some w.text
  | _ => none

/-- The vocabulary that keeps an attribute of this name, so that nobody can assign to it. -/
def keeper? (w : Word) (name : String) : Option String :=
  if (w.part? name).isSome then some "Enum"
  else if w.constants.contains name then some w.vocabulary
  else none

end Word

end ClassDiagram
