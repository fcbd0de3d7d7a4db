import MarkdownTree.Markdown.Definition

/-!
# Blocks with blocks in them

Quotes, lists and notes hold blocks. Each of them takes its marks out of the lines and hands the
lines to a reader for what they hold.
-/

namespace MarkdownTree.Markdown

open Syntax (Token)

namespace Frame

/-- Takes blanks from `pos` on, which is in column `column`: the place and the column after them. A
tab counts from `margin` on. -/
def takeBlanks (margin : Int) : (pos : Nat) → (column : Int) → List Char → Nat × Int
  | pos, column, [] => (pos, column)
  | pos, column, c :: cs =>
    if c = '\t' then takeBlanks margin (pos + 1) (afterTab column margin) cs
    else if c = ' ' then takeBlanks margin (pos + 1) (column + 1) cs
    else (pos, column)

/-- A line without the mark of a quote and one space behind it. A tab behind the mark can be wider
than the space; what is left of it stays. -/
def withoutQuoteMark (f : Frame) (i : Nat) : Line :=
  let l := f.line i
  let pos := l.textStart + 1
  let column := l.columns + 1
  let next := f.source[pos]?
  let tabIsSpace := (l.margin + column) % 4 = 3
  let spaced := next = some ' ' ∨ next = some '\t'
  let taken := next = some ' ' ∨ (next = some '\t' ∧ tabIsSpace)
  let start := if taken then pos + 1 else pos
  let initial := if taken then column + 1 else column
  let tabMargin := if next = some '\t' ∧ !tabIsSpace then l.margin + 1 else l.margin
  let (text, reached) := takeBlanks tabMargin start initial (f.between start l.stop)
  { start, stop := l.stop, blanks := text - start, columns := reached - initial,
    margin := l.columns + 1 + (if spaced then 1 else 0) }

/-- The lines of a quote, from `i` on. -/
structure QuoteLines where
  lines : Array Line
  /-- The line after the last one. -/
  next : Nat
  /-- The number of lines that a paragraph in the quote can reach. -/
  lineCount : Nat

/-- Gathers the lines of a quote. A line without a mark continues the paragraph before it unless
the line before is empty or another block begins. -/
def quoteLines (f : Frame) (stop : Nat) :
    (steps i : Nat) → (afterEmpty : Bool) → Array Line → QuoteLines
  | 0, i, _, lines => { lines, next := i, lineCount := f.lineCount }
  | steps + 1, i, afterEmpty, lines =>
    if stop ≤ i ∨ f.isEmpty i then { lines, next := i, lineCount := f.lineCount }
    else if (f.text i).head? = some '>' ∧ !f.isOutdented i then
      let l := f.withoutQuoteMark i
      quoteLines f stop steps (i + 1) l.isEmpty (lines.setIfInBounds i l)
    else if afterEmpty then { lines, next := i, lineCount := f.lineCount }
    else
      let l := f.line i
      if f.interrupts .quote i stop then
        { lines := lines.setIfInBounds i { l with columns := l.columns - f.indent }, next := i,
          lineCount := i }
      else quoteLines f stop steps (i + 1) false (lines.setIfInBounds i { l with columns := -1 })

/-- Reads a quote. -/
def quote (inner : BlockReader) (f : Frame) (i stop : Nat) : BlockResult := do
  if f.isCode i ∨ (f.text i).head? ≠ some '>' then noBlock
  else
    let first := f.withoutQuoteMark i
    let q := f.quoteLines stop (stop - i) (i + 1) first.isEmpty (f.lines.setIfInBounds i first)
    let (tokens, next) ← inner
      { f with lines := q.lines, lineCount := q.lineCount, indent := 0, level := f.level + 1 } i q.next
    block (opening "blockquote" "blockquote" (some (i, next)) :: tokens ++
      [closing "blockquote" "blockquote"]) next

/-- The frame of what stands in an item of a list: from the column of its first text on, which
follows the mark after at most four columns. -/
def itemFrame (f : Frame) (mark : ListMark) (i : Nat) : Frame :=
  let l := f.line i
  let afterMark := l.textStart + mark.length
  let initial := l.columns + mark.length
  let (text, reached) := takeBlanks l.margin afterMark initial (f.between afterMark l.stop)
  let width := if l.stop ≤ text ∨ 4 < reached - initial then 1 else reached - initial
  { f with
    lines := f.lines.setIfInBounds i { l with blanks := text - l.start, columns := reached }
    indent := initial + width, listIndent := f.indent, level := f.level + 2 }

/-- Reads the items of a list from `i` on, the first of which has the mark `mark`. -/
def items (inner : BlockReader) (f : Frame) (stop : Nat) :
    (steps i : Nat) → ListMark → Reading (List Token × Nat)
  | 0, i, _ => return ([], i)
  | steps + 1, i, mark => do
    let item := f.itemFrame mark i
    let (tokens, next) ←
      if item.isEmpty i ∧ f.isEmpty (i + 1) then pure ([], min (i + 2) stop)
      else inner item i stop
    let tokens := opening "list_item" "li" (some (i, next)) :: tokens ++ [closing "list_item" "li"]
    if stop ≤ next ∨ f.isOutdented next ∨ f.isCode next ∨ f.interrupts .list next stop then
      return (tokens, next)
    else
      match mark.next? (f.text next) with
      | none => return (tokens, next)
      | some mark =>
        let (others, next) ← items inner f stop steps next mark
        return (tokens ++ others, next)

/-- Reads a list. Its number is reported if it is not one. -/
def list (inner : BlockReader) (f : Frame) (i stop : Nat) : BlockResult := do
  match if f.isCode i then none else f.list? i with
  | none => noBlock
  | some mark =>
    let (tokens, next) ← items inner f stop (stop - i) i mark
    let kind := if mark.number.isSome then "ordered_list" else "bullet_list"
    let tag := if mark.number.isSome then "ol" else "ul"
    let attrs : Fields :=
      match mark.number with
      | some n => if n = 1 then [] else [("start", .int n)]
      | none => []
    block (opening kind tag (some (i, next)) attrs :: tokens ++ [closing kind tag]) next

/-- Reads the definition of a note. Its text counts from the fourth column on. -/
def note (inner : BlockReader) (f : Frame) (i stop : Nat) : BlockResult := do
  match if f.isCode i then none else noteLabel? (f.text i) with
  | none => noBlock
  | some (label, length) =>
    let label := String.ofList label
    modify fun found => { found with noteNumbers := Entries.set found.noteNumbers label (-1) }
    let l := f.line i
    let start := l.textStart + length
    let initial := l.columns + length
    let (text, reached) := takeBlanks 0 start initial (f.between start l.stop)
    let indent := f.indent + 4
    let columns := reached - initial
    let first : Line :=
      { l with start, blanks := text - start
               columns := if columns < indent then columns + indent else columns }
    let (tokens, next) ← inner
      { f with lines := f.lines.setIfInBounds i first, indent, level := f.level + 1 } i stop
    block ({ opening "footnote_reference" "" (some (i, next)) with
             details := [("label", .string label)] } ::
      tokens ++ [closing "footnote_reference" ""]) next

/-- Reads the block that begins at a line; where no other does, it is a paragraph. -/
def readBlock (inner : BlockReader) (f : Frame) (i stop : Nat) : BlockResult :=
  let readers : List BlockResult :=
    if f.options.plain then [f.frontMatter i stop, f.table i stop, f.note inner i stop]
    else
      [f.frontMatter i stop, f.table i stop, f.code i stop, f.fence i stop, f.quote inner i stop,
        f.rule i, f.list inner i stop, f.note inner i stop, f.definition i, f.html i stop,
        f.heading i, f.underlinedHeading i stop]
  readers.foldr (fun reader others => do
    match ← reader with
    | some result => return some result
    | none => others) (f.paragraph i)

/-- Reads blocks, `steps` of them at most one behind or in another. Nothing is read at a level that
is too deep. -/
def blocks : (steps : Nat) → BlockReader
  | 0, _, i, _ => return ([], i)
  | steps + 1, f, i, stop => do
    if stop ≤ i then return ([], i)
    let i := f.skipEmpty i
    if stop ≤ i ∨ f.isOutdented i then return ([], i)
    if let .incomparable typeName := f.options.limit then throw (.incomparableLimit typeName)
    if f.options.limit.reached f.level then return ([], stop)
    match ← f.readBlock (blocks steps) i stop with
    | none => return ([], stop)
    | some (tokens, next) =>
      let next := if next < stop ∧ f.isEmpty next then next + 1 else next
      let (others, last) ← blocks steps f next stop
      return (tokens ++ others, last)

end Frame

/-- Reads the blocks of a text. -/
def readBlocks (options : Options) (text : List Char) : Reading (List Token) := do
  let lines := (Line.ofChars text).toArray
  let f : Frame := { options, source := text.toArray, lines, lineCount := lines.size }
  let (tokens, _) ← Frame.blocks (2 * text.length + 2) f 0 lines.size
  return tokens

end MarkdownTree.Markdown
