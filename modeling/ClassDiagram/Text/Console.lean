import ClassDiagram.Text.Blank
import ClassDiagram.Text.Picture
import ClassDiagram.Text.Width

/-!
# Text on a console

What a console makes of a message: it draws the names of pictures between colons as pictures, leaves
out the characters that would move the cursor, and widens tabs.

* `Console.withPictures`, `Console.withoutControls` and `Console.withoutTabs` are these steps;
* `Console.shown` is a message as it appears, with its line end.
-/

namespace ClassDiagram.Console

/-! ### Pictures -/

/-- The endings of a name that ask for a variant of the picture, and the character for that. -/
def variants : List (String × Char) := [("-emoji", '\uFE0F'), ("-text", '\uFE0E')]

/-- The name before one of the endings, and the character of the variant. -/
def variant? (name : List Char) : Option (List Char × Char) :=
  variants.findSome? fun (ending, mark) =>
    if ending.toList.isSuffixOf name then some (name.take (name.length - ending.length), mark)
    else none

/-- The picture with a name, in letters of either case, and its variant. -/
def picture? (name : List Char) : Option (List Char) :=
  let (name, marks) := match variant? name with
    | some (name, mark) => (name, [mark])
    | none => (name, [])
  (named? (name.map smallLetter)).map (· ++ marks)

/-- A character that may stand in a name. -/
def isNameChar (c : Char) : Bool := c ≠ ':' && !Text.isBlank c

/-- The text with pictures for their names. What stands between two colons without white space is a
name; one that belongs to no picture stays, with both its colons. -/
def withPictures : List Char → List Char
  | [] => []
  | c :: cs =>
    if c = ':' then
      let name := cs.takeWhile isNameChar
      match cs.drop name.length with
      | ':' :: _ =>
        (picture? name).getD (':' :: name ++ [':']) ++ withPictures (cs.drop (name.length + 1))
      | _ => ':' :: withPictures cs
    else c :: withPictures cs
termination_by cs => cs.length

/-! ### Control characters and tabs -/

/-- The characters that a console would obey: bell, backspace, vertical tab, form feed and carriage
return. -/
def isControl (c : Char) : Bool :=
  c = '\x07' || c = '\x08' || c = '\x0b' || c = '\x0c' || c = '\r'

/-- The text without the characters that a console would obey. -/
def withoutControls (cs : List Char) : List Char := cs.filter (!isControl ·)

/-- The columns between two stops of the tab key. -/
def tabWidth : Nat := 8

/-- The text with spaces for its tabs, each up to the next stop, where `column` columns of the line
are past. -/
def withoutTabs (column : Nat) : List Char → List Char
  | [] => []
  | c :: cs =>
    if c = '\n' then c :: withoutTabs 0 cs
    else if c = '\t' then
      let spaces := tabWidth - column % tabWidth
      List.replicate spaces ' ' ++ withoutTabs (column + spaces) cs
    else c :: withoutTabs (column + Text.columns c) cs

/-- A message as it appears on the console. -/
def shown (message : String) : String :=
  String.ofList (withoutTabs 0 (withoutControls (withPictures message.toList))) ++ "\n"

end ClassDiagram.Console
