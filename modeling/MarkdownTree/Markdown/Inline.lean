import MarkdownTree.Markdown.Address
import MarkdownTree.Markdown.HtmlTag
import MarkdownTree.Markdown.Stretch

/-!
# Constructs without text to be read in them

Each reader answers whether its construct stands at the next place, and goes behind it if so. With
`silent` it only looks and adds nothing.
-/

namespace MarkdownTree.Markdown

open Syntax (Token)

/-- The characters at which a run of plain text ends. -/
def endsPlainText (c : Char) : Bool :=
  "\n!#$%&*+-:<=>@[\\]^_\x60\x7b\x7d~".toList.contains c

/-- Reads plain text. -/
def readPlainText (silent : Bool) : Inline Bool := do
  let s ← get
  let run := s.rest.takeWhile (!endsPlainText ·)
  if run.isEmpty then return false
  unless silent do modify (·.keep run)
  readUpTo (s.pos + run.length)

/-- The number of blanks from a place on. -/
def blanksFrom (s : Stretch) (pos : Nat) : Nat :=
  ((s.between pos s.stop).takeWhile Text.isSpaceOrTab).length

/-- Reads the end of a line. Two or more spaces before it break the line. -/
def readLineEnd (silent : Bool) : Inline Bool := do
  let s ← get
  if s.head? ≠ some '\n' then return false
  let spaces := (s.pending.takeWhile (· = ' ')).length
  unless silent do
    modify fun s => { s with pending := s.pending.drop spaces }
    modify (·.push (if 2 ≤ spaces then leaf "hardbreak" "br" none [] else leaf "softbreak" "br" none []))
  readUpTo (s.pos + 1 + blanksFrom s (s.pos + 1))

/-- Reads a backslash with the character after it. Before the end of a line it breaks the line. -/
def readEscape (silent : Bool) : Inline Bool := do
  let s ← get
  match s.head?, s.charAt? (s.pos + 1) with
  | some '\\', some c =>
    if c = '\n' then
      readToken silent (leaf "hardbreak" "br" none []) (s.pos + 2 + blanksFrom s (s.pos + 2))
    else
      let text := if Text.isAsciiPunctuation c then [c] else ['\\', c]
      readToken silent (leaf "text_special" "" none text) (s.pos + 2)
  | _, _ => return false

/-- The text of a code span: line feeds are spaces, and one space at both ends is left out if there
is anything else. -/
def codeText (cs : List Char) : List Char :=
  let cs := cs.map fun c => if c = '\n' then ' ' else c
  if cs.head? = some ' ' ∧ cs.getLast? = some ' ' ∧ !cs.all Text.isBlank then (cs.drop 1).dropLast
  else cs

/-- Looks from `pos` on for a run of `length` backticks. Gives its place and the place after it,
and the places of the runs of other lengths, the last one first. -/
def closingBackticks (s : Stretch) (length : Nat) :
    (steps pos : Nat) → (others : List (Nat × Nat)) → Option (Nat × Nat) × List (Nat × Nat)
  | 0, _, others => (none, others)
  | steps + 1, pos, others =>
    let start := firstNot (fun i => s.source[i]? ≠ some '\x60') pos s.source.size
    if s.source.size ≤ start then (none, others)
    else
      let stop := firstNot (fun i => s.source[i]? = some '\x60') (start + 1) s.stop
      if stop - start = length then (some (start, stop), others)
      else closingBackticks s length steps stop ((stop - start, start) :: others)

/-- Reads a code span. Backticks that nothing closes stand for themselves. -/
def readCode (silent : Bool) : Inline Bool := do
  let s ← get
  if s.head? ≠ some '\x60' then return false
  let stop := firstNot (fun i => s.source[i]? = some '\x60') (s.pos + 1) s.stop
  let length := stop - s.pos
  let asText : Inline Bool := do
    unless silent do modify (·.keep (List.replicate length '\x60'))
    readUpTo stop
  if s.backticksKnown ∧ (Entries.get? s.backticks length).getD 0 ≤ s.pos then asText
  else
    let (closing, others) := closingBackticks s length (s.source.size + 1) stop []
    modify fun s => { s with backticks := Entries.merge s.backticks others.reverse }
    match closing with
    | some (start, next) =>
      readToken silent (leaf "code_inline" "code" none (codeText (s.between stop start))) next
    | none =>
      modify ({ · with backticksKnown := true })
      asText

/-- The run of marks at the next place: its length, and whether it can open and close. -/
def markRun (s : Stretch) (c : Char) (splitsWords : Bool) : Nat × Bool × Bool :=
  let stop := firstNot (fun i => s.source[i]? = some c) s.pos s.stop
  let before := if s.pos = 0 then ' ' else (s.source[s.pos - 1]?).getD ' '
  let after := (s.charAt? stop).getD ' '
  (stop - s.pos, flanking before after splitsWords)

/-- Reads tildes. Each two of them are a delimiter; a single one is text. -/
def readTildes (silent : Bool) : Inline Bool := do
  let s ← get
  if silent ∨ s.head? ≠ some '~' then return false
  let (length, opens, closes) := markRun s '~' true
  if length < 2 then return false
  if length % 2 = 1 then modify (·.push (leaf "text" "" none ['~']))
  for _ in List.range (length / 2) do
    modify (·.pushDelimiter ['~', '~'] { mark := '~', runLength := 0, token := 0, opens, closes })
  readUpTo (s.pos + length)

/-- Reads asterisks or low lines. Each of them is a delimiter. -/
def readEmphasis (silent : Bool) : Inline Bool := do
  let s ← get
  match s.head? with
  | none => return false
  | some c =>
    if silent ∨ ¬(c = '*' ∨ c = '_') then return false
    let (length, opens, closes) := markRun s c (c = '*')
    for _ in List.range length do
      modify (·.pushDelimiter [c] { mark := c, runLength := length, token := 0, opens, closes })
    readUpTo (s.pos + length)

/-- Whether a text is an address with a scheme of two to 32 characters. -/
def isAbsoluteAddress (cs : List Char) : Bool :=
  let scheme := cs.takeWhile fun c => isAlphanumeric c || c = '+' || c = '.' || c = '-'
  2 ≤ scheme.length && scheme.length ≤ 32 && scheme.head?.any isLetter &&
    match cs.drop scheme.length with
    | ':' :: rest => rest.all fun c => 0x20 < c.toNat && c ≠ '<' && c ≠ '>'
    | _ => false

/-- Whether a text is a label of a mail domain: at most 63 letters, digits and hyphens, with no
hyphen at either end. -/
def isMailLabel (cs : List Char) : Bool :=
  cs.length ≤ 63 && cs.all (fun c => isAlphanumeric c || c = '-') &&
    cs.head?.any isAlphanumeric && cs.getLast?.any isAlphanumeric

/-- Whether a text is a mail address. -/
def isMailAddress (cs : List Char) : Bool :=
  let user := cs.takeWhile fun c =>
    isAlphanumeric c || ".!#$%&'*+/=?^_\x60\x7b|\x7d~-".toList.contains c
  match cs.drop user.length with
  | '@' :: domain => !user.isEmpty && (Text.splitAt '.' domain).all isMailLabel
  | _ => false

/-- The text without one line feed at its end. -/
def withoutLineEnd (cs : List Char) : List Char :=
  if cs.getLast? = some '\n' then cs.dropLast else cs

/-- Reads an address in angle brackets. -/
def readBareAddress (silent : Bool) : Inline Bool := do
  let s ← get
  if s.head? ≠ some '<' then return false
  let address := (s.between (s.pos + 1) s.stop).takeWhile fun c => c ≠ '<' && c ≠ '>'
  let next := s.pos + 2 + address.length
  if s.charAt? (next - 1) ≠ some '>' then return false
  let isAddress := isAbsoluteAddress (withoutLineEnd address)
  if !isAddress && !isMailAddress (withoutLineEnd address) then return false
  let target := linkTarget (if isAddress then address else "mailto:".toList ++ address)
  if !isSafeTarget target then return false
  unless silent do
    modify (·.enter (opening "link" "a" none [("href", .string (String.ofList target))]))
    modify (·.push (leaf "text" "" none (linkText address)))
    modify (·.leave (closing "link" "a"))
  readUpTo next

/-- Reads a piece of HTML. -/
def readHtml (silent : Bool) : Inline Bool := do
  let s ← get
  if !s.options.html ∨ s.head? ≠ some '<' ∨ s.stop ≤ s.pos + 2 then return false
  let text := s.between s.pos s.source.size
  match afterHtml? text with
  | none => return false
  | some rest =>
    let length := text.length - rest.length
    readToken silent (leaf "html_inline" "" none (text.take length)) (s.pos + length)

/-- Reads a character reference. -/
def readCharacterReference (silent : Bool) : Inline Bool := do
  let s ← get
  if s.head? ≠ some '&' then return false
  match characterReference? (s.between s.pos s.source.size) with
  | none => return false
  | some (characters, length) =>
    readToken silent (leaf "text_special" "" none characters) (s.pos + length)

end MarkdownTree.Markdown
