import ClassDiagram.Symbol.Basic

/-!
# Diagram lines

A diagram is a list of lines, each a nesting level and a text; only `Line.written` turns them into
characters.

* `indentation` is the blank space before a line of some level;
* `Line.written` is a line with its indentation and its line end;
* `Visibility.mark`, `Member.asProperty` and `Member.asMethod` are the texts of members.
-/

namespace ClassDiagram

/-- The columns of one nesting level. -/
def indentWidth : Nat := 4

/-- The blank space before a line; a negative level has none. -/
def indentation (level : Int) : String :=
  String.ofList (List.replicate (level * indentWidth).toNat ' ')

/-- A line of a diagram. -/
structure Line where
  /-- How deep it is nested. -/
  level : Nat
  /-- What it shows. -/
  text : String
deriving DecidableEq, Repr, Inhabited

namespace Line

/-- The line as it stands in a diagram. -/
def written (l : Line) : String := indentation l.level ++ l.text ++ "\n"

/-- Lines one below the other. -/
def writtenAll (ls : List Line) : String := String.join (ls.map written)

end Line

/-- The sign before a member; a member of unspecified visibility has a blank. -/
def Visibility.mark : Visibility → String
  | .publicAccess => "+"
  | .protectedAccess => "#"
  | .protectedAndInternal => "#"
  | .protectedOrInternal => "#"
  | .privateAccess => "-"
  | .internalAccess => "~"
  | .unspecified => " "

namespace Member

/-- The sign after a member that belongs to the type itself. -/
def staticMark (m : Member) : String := if m.isStatic then "$" else ""

/-- What stands between the parentheses of a method: signatures are always shown empty. -/
def shownParameters (_ : Member) : String := ""

/-- The member shown as a property. -/
def asProperty (m : Member) : String :=
  m.visibility.mark ++ m.typeName ++ " " ++ m.name ++ m.staticMark

/-- The member shown as a method. -/
def asMethod (m : Member) : String :=
  m.visibility.mark ++ m.typeName ++ " " ++ m.name ++ "(" ++ m.shownParameters ++ ")"
    ++ m.staticMark

end Member

end ClassDiagram
