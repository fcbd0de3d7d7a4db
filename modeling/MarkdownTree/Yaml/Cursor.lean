/-!
# Cursors

A cursor is a place in a text: what is left of it, and the line and column of the place. The end
of the text shows as the null character, which no text holds.
-/

namespace MarkdownTree.Yaml

/-- A line break: line feed, carriage return, next line, line or paragraph separator. -/
def isBreak (c : Char) : Bool :=
  c = '\n' || c = '\r' || c = '\u0085' || c = '\u2028' || c = '\u2029'

/-- A line break or the end of the text. -/
def endsLine (c : Char) : Bool := isBreak c || c = '\x00'

/-- A space, a line break or the end of the text. -/
def endsWord (c : Char) : Bool := c = ' ' || endsLine c

/-- A space, a tab, a line break or the end of the text. -/
def isGap (c : Char) : Bool := c = '\t' || endsWord c

/-- A place in a text. -/
structure Cursor where
  rest : List Char
  /-- The number of characters before the place. -/
  index : Nat := 0
  line : Nat := 0
  column : Nat := 0

namespace Cursor

/-- The character `n` places ahead. -/
def peek (c : Cursor) (n : Nat) : Char := (c.rest[n]?).getD '\x00'

/-- The character at the cursor. -/
def head (c : Cursor) : Char := c.peek 0

/-- The place after one character. A carriage return before a line feed does not end a line, and
a byte order mark takes no column. -/
def next (c : Cursor) : Cursor :=
  match c.rest with
  | [] => c
  | ch :: rest =>
    if isBreak ch && !(ch = '\r' && rest.head? = some '\n') then
      ⟨rest, c.index + 1, c.line + 1, 0⟩
    else if ch = '\ufeff' then ⟨rest, c.index + 1, c.line, c.column⟩
    else ⟨rest, c.index + 1, c.line, c.column + 1⟩

/-- The place after `n` characters. -/
def advance (n : Nat) (c : Cursor) : Cursor := n.repeat next c

/-- The characters of `p` from the cursor on, and the place after them. -/
def span (p : Char → Bool) (c : Cursor) : List Char × Cursor :=
  let run := c.rest.takeWhile p
  (run, c.advance run.length)

/-- The place after the characters of `p`. -/
def skip (p : Char → Bool) (c : Cursor) : Cursor := (c.span p).2

/-- The place after the spaces. -/
def skipSpaces (c : Cursor) : Cursor := c.skip (· = ' ')

/-- The line break at the cursor and the place after it. The breaks of plain text count as line
feeds, the two separators as themselves. -/
def lineBreak? (c : Cursor) : Option (Char × Cursor) :=
  if c.head = '\u2028' || c.head = '\u2029' then some (c.head, c.next)
  else if isBreak c.head then
    if c.head = '\r' && c.peek 1 = '\n' then some ('\n', c.advance 2) else some ('\n', c.next)
  else none

/-- The place after a line break, if there is one at the cursor. -/
def skipBreak (c : Cursor) : Cursor := (c.lineBreak?.map Prod.snd).getD c

/-- Whether three equal characters at the cursor separate documents. -/
def atMarker (mark : Char) (c : Cursor) : Bool :=
  c.rest.take 3 = [mark, mark, mark] && isGap (c.peek 3)

/-- Whether a document separator stands at the cursor. -/
def atSeparator (c : Cursor) : Bool := c.atMarker '-' || c.atMarker '.'

/-- The place after a comment, if one begins at the cursor. -/
def skipComment (c : Cursor) : Cursor := if c.head = '#' then c.skip (!endsLine ·) else c

end Cursor

end MarkdownTree.Yaml
