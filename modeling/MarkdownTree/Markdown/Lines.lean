import MarkdownTree.Markdown.Options
import MarkdownTree.Text.LineEnd
import MarkdownTree.Text.Whitespace

/-!
# Lines

A text is divided into lines. Each line knows where its text begins and in which column. A block
that stands in another one sees the lines without the marks of the outer block: the view of a line
changes, the text does not.
-/

namespace MarkdownTree.Markdown

/-- A line as the block sees it that it stands in. -/
structure Line where
  /-- The place where the line begins. -/
  start : Nat
  /-- The place after its last character. -/
  stop : Nat
  /-- The number of blanks before its text. -/
  blanks : Nat := 0
  /-- The number of columns that the blanks take. It is negative for a line that only continues
  the paragraph of a quote. -/
  columns : Int := 0
  /-- The number of columns before the line begins. -/
  margin : Int := 0
  deriving Inhabited

/-- The column of the next tab stop. -/
def afterTab (column margin : Int) : Int := column + (4 - (column + margin) % 4)

namespace Line

/-- The place of the first character of the text. -/
def textStart (l : Line) : Nat := l.start + l.blanks

/-- Whether a line has no text. -/
def isEmpty (l : Line) : Bool := l.stop ≤ l.textStart

/-- The lines of the text that is left. The line begun at `start` has had `blanks` blanks in
`columns` columns; `indent` says whether only blanks have been read of it. A last line of blanks
alone is no line. -/
def split : (pos start blanks : Nat) → (columns : Int) → (indent : Bool) → List Char → List Line
  | pos, start, blanks, columns, indent, [] =>
    if indent then [] else [{ start, stop := pos, blanks, columns }]
  | pos, start, blanks, columns, indent, c :: cs =>
    if c = '\n' then { start, stop := pos, blanks, columns } :: split (pos + 1) (pos + 1) 0 0 true cs
    else if indent ∧ c = ' ' then split (pos + 1) start (blanks + 1) (columns + 1) true cs
    else if indent ∧ c = '\t' then split (pos + 1) start (blanks + 1) (afterTab columns 0) true cs
    else split (pos + 1) start blanks columns false cs

/-- The lines of a text. -/
def ofChars (cs : List Char) : List Line := split 0 0 0 0 true cs

end Line

/-- Puts line feeds for all line ends and the replacement character for the null character. -/
def normalise (cs : List Char) : List Char :=
  (Text.unifyLineEnds cs).map fun c => if c = '\x00' then '\ufffd' else c

end MarkdownTree.Markdown
