/-!
# Line ends

A line ends with a line feed, a carriage return or both. Texts are read with line feeds only.
-/

namespace MarkdownTree.Text

/-- Puts a line feed for each line end. -/
def unifyLineEnds : List Char → List Char
  | [] => []
  | '\r' :: '\n' :: cs => '\n' :: unifyLineEnds cs
  | c :: cs => (if c = '\r' then '\n' else c) :: unifyLineEnds cs

end MarkdownTree.Text
