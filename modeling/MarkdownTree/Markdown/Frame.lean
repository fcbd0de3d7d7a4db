import MarkdownTree.Markdown.Lines
import MarkdownTree.Syntax.Document

/-!
# Frames

A frame is what a block sees of the text: the lines without the marks of the blocks around it, the
column from which its own text counts, and how deep it stands. Reading gathers the definitions of
references and the notes on the way.
-/

namespace MarkdownTree.Markdown

open Syntax (Token Reference)

/-- A note. -/
inductive Note where
  /-- A note with a label, and the number of references to it so far. -/
  | labelled (count : Nat)
  /-- A note inside a text, with the tokens of its text. -/
  | inText (tokens : List Token)

/-- What is gathered while a text is read. -/
structure Found where
  references : Entries String Reference := []
  /-- The number of the note with each label; it is negative before the first reference. -/
  noteNumbers : Entries String Int := []
  notes : Entries Int Note := []

/-- A step that gathers and can fail. -/
abbrev Reading := StateT Found (Except Fault)

/-- The first number from `i` on and before `stop` that does not meet `p`, `stop` if all meet it. -/
def firstNot (p : Nat → Bool) (i stop : Nat) : Nat :=
  if i < stop then if p i then firstNot p (i + 1) stop else i else i
termination_by stop - i

/-- What a block sees of the text. -/
structure Frame where
  options : Options
  source : Array Char
  lines : Array Line
  /-- The number of lines that can belong to the block. -/
  lineCount : Nat
  /-- The column from which the text of the block counts. -/
  indent : Int := 0
  /-- The column of the list that the block stands in, negative for none. -/
  listIndent : Int := -1
  /-- The number of blocks around it. -/
  level : Nat := 0

/-- Reads the blocks between two lines: their tokens, and the line after them. -/
abbrev BlockReader := Frame → Nat → Nat → Reading (List Token × Nat)

namespace Frame

/-- A line; behind the last one stands an empty one at the end of the text. -/
def line (f : Frame) (i : Nat) : Line :=
  (f.lines[i]?).getD { start := f.source.size, stop := f.source.size }

/-- The characters between two places. -/
def between (f : Frame) (start stop : Nat) : List Char := (f.source.extract start stop).toList

/-- The text of a line. -/
def text (f : Frame) (i : Nat) : List Char := f.between (f.line i).textStart (f.line i).stop

def isEmpty (f : Frame) (i : Nat) : Bool := (f.line i).isEmpty

/-- Whether a line is indented so far that it is code. -/
def isCode (f : Frame) (i : Nat) : Bool :=
  !f.options.plain && 4 ≤ (f.line i).columns - f.indent

/-- Whether a line begins before the text of the block. -/
def isOutdented (f : Frame) (i : Nat) : Bool := (f.line i).columns < f.indent

/-- The first line from `i` on that has text. -/
def skipEmpty (f : Frame) (i : Nat) : Nat := firstNot f.isEmpty i f.lineCount

/-- Drops the indentation of a line up to column `indent`. `read` is the number of characters
dropped and `column` the column reached. Characters that belong to the mark of an outer block
count as one column each. -/
def dropIndent (l : Line) (indent : Int) (read : Nat) (column : Int) (cs : List Char) :
    Int × List Char :=
  match cs with
  | [] => (column, [])
  | c :: rest =>
    if indent ≤ column then (column, cs)
    else if c = '\t' then dropIndent l indent (read + 1) (afterTab column l.margin) rest
    else if c = ' ' ∨ read < l.blanks then dropIndent l indent (read + 1) (column + 1) rest
    else (column, cs)

/-- The text of a line from column `indent` on, with its line feed if `keep`. A tab that reaches
beyond the column leaves spaces. -/
def cutLine (f : Frame) (indent : Int) (keep : Bool) (i : Nat) : Except Fault (List Char) :=
  let l := f.line i
  let stop := if keep then l.stop + 1 else l.stop
  let (column, rest) := dropIndent l indent 0 0 (f.between l.start stop)
  if rest.isEmpty ∧ column < indent ∧ f.source.size < stop then .error .beyondEnd
  else .ok (List.replicate (column - indent).toNat ' ' ++ rest)

/-- The text of the lines from `first` up to `stop`, from column `indent` on. -/
def cut (f : Frame) (first stop : Nat) (indent : Int) (keepLast : Bool) :
    Except Fault (List Char) := do
  let pieces ← (List.range (stop - first)).mapM fun k =>
    f.cutLine indent (keepLast || first + k + 1 < stop) (first + k)
  return pieces.flatten

end Frame

/-- A token that opens a block. -/
def opening (kind tag : String) (lines : Option (Nat × Nat)) (attrs : Fields := []) : Token :=
  { kind := kind ++ "_open", tag, nesting := 1, attrs,
    lines := lines.map fun (a, b) => ((a : Int), (b : Int)) }

/-- A token that closes a block. -/
def closing (kind tag : String) : Token := { kind := kind ++ "_close", tag, nesting := -1 }

/-- A token that stands for itself. -/
def leaf (kind tag : String) (lines : Option (Nat × Nat)) (content : List Char) : Token :=
  { kind, tag, content := some (String.ofList content),
    lines := lines.map fun (a, b) => ((a : Int), (b : Int)) }

/-- The tokens of a block that holds a text. -/
def textBlock (kind tag : String) (lines : Nat × Nat) (textLines : Nat × Nat)
    (text : List Char) : List Token :=
  [opening kind tag (some lines),
    leaf "inline" "" (some textLines) (Text.trimBy Text.isBlank text), closing kind tag]

end MarkdownTree.Markdown
