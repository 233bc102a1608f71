/-!
# Line ends

Texts of files may end their lines with a carriage return, a line feed or both; they are read with
line feeds only.
-/

namespace ClassDiagram.Text

/-- The characters with one line feed for each line end. -/
def unifyNewlines : List Char → List Char
  | [] => []
  | '\r' :: '\n' :: cs => '\n' :: unifyNewlines cs
  | '\r' :: cs => '\n' :: unifyNewlines cs
  | c :: cs => c :: unifyNewlines cs

/-- The text with one line feed for each line end. -/
def withLineFeeds (s : String) : String := String.ofList (unifyNewlines s.toList)

end ClassDiagram.Text
