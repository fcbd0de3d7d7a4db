import MarkdownTree.Markdown.Address
import MarkdownTree.Markdown.Opening
import MarkdownTree.Markdown.Target

/-!
# Blocks without blocks in them

Each reader looks at a line, answers none if its block does not begin there, and otherwise gives
the tokens of the block and the line after it. The lines that may be read end before `stop`; only
a paragraph can go on behind it.
-/

namespace MarkdownTree.Markdown

open Syntax (Token Reference)

/-- What reading a block comes to: its tokens and the line after it, or none. -/
abbrev BlockResult := Reading (Option (List Token × Nat))

/-- A block that does not begin here. -/
def noBlock : BlockResult := pure none

/-- The tokens of a block and the line after it. -/
def block (tokens : List Token) (next : Nat) : BlockResult := pure (some (tokens, next))

namespace Frame

/-- Whether a line ends front matter that `count` hyphens open. -/
def closesFrontMatter (f : Frame) (count i : Nat) : Bool :=
  let text := f.text i
  let length := (text.takeWhile (· = '-')).length
  !f.isCode i && count ≤ length && (text.drop length).all Text.isSpaceOrTab

/-- Reads front matter, which stands before everything else. It ends at a line of hyphens, at a
line of three periods, and before a line that stands before the text of the block. -/
def frontMatter (f : Frame) (i stop : Nat) : BlockResult := do
  let count := 1 + (((f.text i).drop 1).takeWhile (· = '-')).length
  if i ≠ 0 ∨ f.source[0]? ≠ some '-' ∨ count < 3 then noBlock
  else
    let endsHere (k : Nat) : Bool := !f.isEmpty k && f.isOutdented k
    let closesHere (k : Nat) : Bool :=
      f.between (f.line k).start (f.line k).stop = ['.', '.', '.'] || f.closesFrontMatter count k
    let last := firstNot (fun k => !endsHere k && !closesHere k) 1 stop
    if stop ≤ last then noBlock
    else
      let next := if endsHere last then last else last + 1
      block [leaf "front_matter" "" (some (0, next))
        (f.between (f.line 1).start (f.line (last - 1)).stop)] next

/-- Reads the row of a table. -/
def rowTokens (cell : String) (columns : List (List Char × String)) (i : Nat) : List Token :=
  let tag := if cell = "th" then "th" else "td"
  let style (alignment : String) : Fields :=
    if alignment = "" then [] else [("style", .string ("text-align:" ++ alignment))]
  opening "tr" "tr" (some (i, i + 1)) ::
    (columns.flatMap fun (text, alignment) =>
      [opening tag tag none (style alignment),
        leaf "inline" "" (some (i, i + 1)) (Text.trimBy Text.isBlank text), closing tag tag]) ++
    [closing "tr" "tr"]

/-- The most cells that can be added to the short rows of a table. -/
def addedCellLimit : Int := 65536

/-- Reads the rows of the body of a table. `added` is the number of cells added so far to rows that
are shorter than the header. -/
def tableRows (f : Frame) (head : TableHead) (stop : Nat) :
    (steps i : Nat) → (added : Int) → Except Fault (List Token × Nat)
  | 0, i, _ => .ok ([], i)
  | steps + 1, i, added =>
    if stop ≤ i ∨ f.isOutdented i then .ok ([], i)
    else if !f.options.plain ∧ !f.isCode i ∧ f.source.size ≤ (f.line i).textStart then
      .error .beyondEnd
    else if f.interrupts .quote i stop ∨ f.isEmpty i ∨ (f.text i).all Text.isBlank ∨ f.isCode i then
      .ok ([], i)
    else
      let cells := cellsOf (f.text i)
      let added := added + head.cells.length - cells.length
      if addedCellLimit < added then .ok ([], i)
      else do
        let columns := (cells ++ List.replicate head.cells.length []).zip head.alignments
        let (tokens, next) ← tableRows f head stop steps (i + 1) added
        return (rowTokens "td" columns i ++ tokens, next)

/-- Reads a table. -/
def table (f : Frame) (i stop : Nat) : BlockResult := do
  match f.table? i stop with
  | none => noBlock
  | some head =>
    let (rows, next) ← f.tableRows head stop (stop - i) (i + 2) 0
    let body :=
      if next = i + 2 then []
      else opening "tbody" "tbody" (some (i + 2, next)) :: rows ++ [closing "tbody" "tbody"]
    block
      (opening "table" "table" (some (i, next)) :: opening "thead" "thead" (some (i, i + 1)) ::
        rowTokens "th" (head.cells.zip head.alignments) i ++ [closing "thead" "thead"] ++ body ++
        [closing "table" "table"]) next

/-- Reads code that is indented by four columns. Empty lines belong to it if more code follows. -/
def code (f : Frame) (i stop : Nat) : BlockResult := do
  if !f.isCode i then noBlock
  else
    let last := firstNot (fun k => f.isEmpty k || f.isCode k) i stop
    let next := last - firstNot (fun k => f.isEmpty (last - 1 - k)) 0 (last - i)
    let text ← f.cut i next (4 + f.indent) false
    block [leaf "code_block" "code" (some (i, next)) (text ++ ['\n'])] next

/-- Reads fenced code. It ends at the closing fence, before a line that stands before the text of
the block, and at the end of the text. -/
def fence (f : Frame) (i stop : Nat) : BlockResult := do
  match if f.isCode i then none else Fence.ofText? (f.text i) with
  | none => noBlock
  | some mark =>
    let endsHere (k : Nat) : Bool :=
      (!f.isEmpty k && f.isOutdented k) || f.source.size ≤ (f.line k).textStart
    let closesHere (k : Nat) : Bool := !f.isCode k && mark.closedBy (f.text k)
    let last := firstNot (fun k => !endsHere k && !closesHere k) (i + 1) stop
    let next := if last < stop ∧ !endsHere last then last + 1 else last
    let text ← f.cut (i + 1) last (f.line i).columns true
    block [{ leaf "fence" "code" (some (i, next)) text with info := String.ofList mark.info }] next

/-- Reads a rule. -/
def rule (f : Frame) (i : Nat) : BlockResult :=
  if !f.isCode i ∧ isRule (f.text i) then block [leaf "hr" "hr" (some (i, i + 1)) []] (i + 1)
  else noBlock

/-- Reads a block of HTML. -/
def html (f : Frame) (i stop : Nat) : BlockResult := do
  match if f.isCode i then none else f.html? i with
  | none => noBlock
  | some kind =>
    let next :=
      if kind.endsWith (f.text i) then i + 1
      else
        let last := firstNot (fun k => !f.isOutdented k && !kind.endsWith (f.text k)) (i + 1) stop
        if last < stop ∧ !f.isOutdented last ∧ !f.isEmpty last then last + 1 else last
    let text ← f.cut i next f.indent true
    block [leaf "html_block" "" (some (i, next)) text] next

/-- The text of a heading without the number signs behind it, which follow a blank. -/
def headingText (text : List Char) : List Char :=
  let kept := (text.reverse.dropWhile Text.isSpaceOrTab).reverse
  let stripped := (kept.reverse.dropWhile (· = '#')).reverse
  if stripped.getLast?.any Text.isSpaceOrTab then stripped else kept

/-- Reads a heading with number signs. -/
def heading (f : Frame) (i : Nat) : BlockResult := do
  match if f.isCode i then none else headingLevel? (f.text i) with
  | none => noBlock
  | some level =>
    let text := headingText ((f.text i).drop level)
    block (textBlock "heading" ("h" ++ toString level) (i, i + 1) (i, i + 1) text) (i + 1)

/-- Whether the text of a paragraph goes on at a line, whatever the line could begin. -/
def isContinuation (f : Frame) (i : Nat) : Bool :=
  3 < (f.line i).columns - f.indent || (f.line i).columns < 0

/-- The level that a line gives to the text above it as a heading. -/
def underline? (f : Frame) (i : Nat) : Option Nat :=
  if 3 < (f.line i).columns - f.indent ∨ f.isOutdented i then none else underlineLevel? (f.text i)

/-- The line that ends the text of a paragraph which begins at `i`. -/
def paragraphEnd (f : Frame) (i stop : Nat) : Nat :=
  firstNot (fun k =>
    !f.isEmpty k && (f.isContinuation k || !f.interrupts .paragraph k stop)) (i + 1) stop

/-- Reads a heading that is underlined. -/
def underlinedHeading (f : Frame) (i stop : Nat) : BlockResult := do
  if f.isCode i then noBlock
  else
    let last := firstNot (fun k =>
      !f.isEmpty k && (f.underline? k).isNone &&
        (f.isContinuation k || !f.interrupts .paragraph k stop)) (i + 1) stop
    match if last < stop ∧ !f.isEmpty last then f.underline? last else none with
    | none => noBlock
    | some level =>
      let text ← f.cut i last f.indent false
      block (textBlock "heading" ("h" ++ toString level) (i, last + 1) (i, last) text) (last + 1)

/-- Reads a paragraph, which goes on up to the last line that can belong to it. -/
def paragraph (f : Frame) (i : Nat) : BlockResult := do
  let next := f.paragraphEnd i f.lineCount
  let text ← f.cut i next f.indent false
  block (textBlock "paragraph" "p" (i, next) (i, next) text) next

end Frame

end MarkdownTree.Markdown
