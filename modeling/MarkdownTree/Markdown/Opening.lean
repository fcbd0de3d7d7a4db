import MarkdownTree.Markdown.Frame
import MarkdownTree.Markdown.HtmlTag

/-!
# What a line opens

The text of a line shows which block it can open. Some blocks can also follow the text of another
one directly; `Frame.interrupts` says which ones end which text.
-/

namespace MarkdownTree.Markdown

/-- The mark that fences a block of code. -/
structure Fence where
  mark : Char
  length : Nat
  /-- What stands behind the mark. -/
  info : List Char

/-- The fence that a text begins with: three or more tildes or backticks. Behind backticks no
further one can stand. -/
def Fence.ofText? (text : List Char) : Option Fence :=
  match text with
  | [] => none
  | c :: _ =>
    let length := (text.takeWhile (· = c)).length
    let info := text.drop length
    if (c = '~' ∨ c = '\x60') ∧ 3 ≤ length ∧ ¬(c = '\x60' ∧ info.contains c) then
      some { mark := c, length, info }
    else none

/-- Whether a text closes a fence. -/
def Fence.closedBy (fence : Fence) (text : List Char) : Bool :=
  let length := (text.takeWhile (· = fence.mark)).length
  fence.length ≤ length && (text.drop length).all Text.isSpaceOrTab

/-- Whether a text is a rule: three or more equal marks with blanks between them. -/
def isRule (text : List Char) : Bool :=
  match text with
  | [] => false
  | c :: _ =>
    (c = '*' || c = '-' || c = '_') && text.all (fun d => d = c || Text.isSpaceOrTab d) &&
      3 ≤ text.count c

/-- The mark of a list item. -/
structure ListMark where
  /-- The number of an item in an ordered list. -/
  number : Option Nat
  /-- The character that ends the mark. -/
  mark : Char
  /-- The number of characters of the mark. -/
  length : Nat

namespace ListMark

/-- The mark of an ordered list that a text begins with: at most nine digits and a period or a
parenthesis. -/
def ordered? (text : List Char) : Option ListMark :=
  let digits := text.takeWhile isDigit
  match text.drop digits.length with
  | c :: rest =>
    if 1 ≤ digits.length ∧ digits.length ≤ 9 ∧ (c = '.' ∨ c = ')') ∧
        rest.head?.all Text.isSpaceOrTab then
      some { number := some (decimalNumber digits), mark := c, length := digits.length + 1 }
    else none
  | [] => none

/-- The mark of a bullet list that a text begins with. -/
def bullet? (text : List Char) : Option ListMark :=
  match text with
  | c :: rest =>
    if (c = '*' ∨ c = '-' ∨ c = '+') ∧ rest.head?.all Text.isSpaceOrTab then
      some { number := none, mark := c, length := 1 }
    else none
  | [] => none

/-- The mark that a text begins with. -/
def ofText? (text : List Char) : Option ListMark := (ordered? text).or (bullet? text)

/-- The mark of the next item of a list. -/
def next? (list : ListMark) (text : List Char) : Option ListMark :=
  (if list.number.isSome then ordered? text else bullet? text).filter (·.mark = list.mark)

end ListMark

/-- The label of the note that a text defines, and the number of characters up to its content. -/
def noteLabel? (text : List Char) : Option (List Char × Nat) :=
  match text with
  | '[' :: '^' :: rest =>
    let label := rest.takeWhile (· ≠ ']')
    match rest.drop label.length with
    | ']' :: ':' :: _ =>
      if label.isEmpty ∨ label.contains ' ' then none else some (label, label.length + 4)
    | _ => none
  | _ => none

/-- The level of the heading that a text begins with: one to six number signs and a blank. -/
def headingLevel? (text : List Char) : Option Nat :=
  let level := (text.takeWhile (· = '#')).length
  if 1 ≤ level ∧ level ≤ 6 ∧ (text.drop level).head?.all Text.isSpaceOrTab then some level else none

/-- The level of the heading that a line under a text makes of it. -/
def underlineLevel? (text : List Char) : Option Nat :=
  match text with
  | c :: _ =>
    if (c = '=' ∨ c = '-') ∧ (text.dropWhile (· = c)).all Text.isSpaceOrTab then
      some (if c = '=' then 1 else 2)
    else none
  | [] => none

/-- The texts of the cells of a row. A bar behind a backslash does not end a cell. -/
def rowCells (escaped : Bool) : List Char → List (List Char)
  | [] => [[]]
  | c :: rest =>
    if c = '|' ∧ !escaped then [] :: rowCells false rest
    else
      let isEscape := c = '\\' ∧ rest.head? = some '|'
      match rowCells (c = '\\') rest with
      | cell :: cells => (if isEscape then cell else c :: cell) :: cells
      | [] => [[c]]

/-- The cells of a row without the empty ones before its first and behind its last bar. -/
def cellsOf (text : List Char) : List (List Char) :=
  let cells := rowCells false (Text.trimBy Text.isBlank text)
  let cells := if cells.head? = some [] then cells.drop 1 else cells
  if cells.getLast? = some [] then cells.dropLast else cells

/-- The alignment that a cell of the line under the header gives: empty for none. -/
def alignmentOf? (cell : List Char) : Option String :=
  let left := cell.head? = some ':'
  let right := cell.getLast? = some ':'
  let hyphens := if left then cell.drop 1 else cell
  let hyphens := if right ∧ !hyphens.isEmpty then hyphens.dropLast else hyphens
  if hyphens.isEmpty ∨ hyphens.any (· ≠ '-') then none
  else some (if left ∧ right then "center" else if right then "right" else if left then "left" else "")

/-- The alignments that the line under the header of a table gives. Its first two characters tell
it from an item of a list. -/
def alignmentsOf? (text : List Char) : Option (List String) :=
  let isMark (c : Char) : Bool := c = '|' || c = '-' || c = ':'
  match text with
  | a :: b :: _ =>
    if isMark a ∧ text.all (fun c => isMark c || Text.isSpaceOrTab c) ∧
        ¬(a = '-' ∧ Text.isSpaceOrTab b) then
      let cells := (Text.splitAt '|' text).map (Text.trimBy Text.isBlank)
      let inner := (cells.drop 1).dropLast
      if inner.any (·.isEmpty) then none
      else (cells.filter (!·.isEmpty)).mapM alignmentOf?
    else none
  | _ => none

/-- The header of a table: its cells with their alignments. -/
structure TableHead where
  cells : List (List Char)
  alignments : List String

namespace Frame

/-- The kind of HTML that a line begins. -/
def html? (f : Frame) (i : Nat) : Option HtmlBlock :=
  if f.options.html then HtmlBlock.ofLine? (f.text i) else none

/-- The mark of a list that a line begins. A line that is indented as code within an outer list and
stands before the text of the block begins none. -/
def list? (f : Frame) (i : Nat) : Option ListMark :=
  let columns := (f.line i).columns
  if 0 ≤ f.listIndent ∧ 4 ≤ columns - f.listIndent ∧ columns < f.indent then none
  else ListMark.ofText? (f.text i)

/-- Whether a line begins a list that can follow the text of a paragraph: it is numbered from one
and its first item is not empty. A line that stands before the text of the block ends it anyway. -/
def listInterrupts (f : Frame) (i : Nat) : Bool :=
  match f.list? i with
  | none => false
  | some mark =>
    f.isOutdented i ||
      (mark.number.all (· = 1) && !((f.text i).drop mark.length).all Text.isSpaceOrTab)

/-- The header of the table that a line begins, the lines ending before `stop`. -/
def table? (f : Frame) (i stop : Nat) : Option TableHead :=
  if stop < i + 2 ∨ f.isOutdented (i + 1) ∨ f.isCode (i + 1) ∨ f.isCode i then none
  else
    match alignmentsOf? (f.text (i + 1)) with
    | none => none
    | some alignments =>
      let cells := cellsOf (f.text i)
      if (f.text i).contains '|' ∧ !cells.isEmpty ∧ cells.length = alignments.length then
        some { cells, alignments }
      else none

end Frame

/-- The texts that another block can end. -/
inductive Interrupted where
  | paragraph
  | definition
  /-- The text that continues a quote, and the rows of a table. -/
  | quote
  | list
  deriving DecidableEq

/-- Whether a line ends a text by beginning another block, the lines ending before `stop`. -/
def Frame.interrupts (f : Frame) (text : Interrupted) (i stop : Nat) : Bool :=
  let inParagraph := text = .paragraph || text = .definition
  !f.isCode i &&
    ((inParagraph && ((f.table? i stop).isSome || (noteLabel? (f.text i)).isSome)) ||
      (!f.options.plain &&
        ((Fence.ofText? (f.text i)).isSome || (f.text i).head? = some '>' || isRule (f.text i) ||
          (text ≠ .list &&
            ((if text = .paragraph then f.listInterrupts i else (f.list? i).isSome) ||
              (f.html? i).any (·.interrupts) || (headingLevel? (f.text i)).isSome)))))

end MarkdownTree.Markdown
