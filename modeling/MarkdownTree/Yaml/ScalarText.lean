import MarkdownTree.Text.CharSet
import MarkdownTree.Yaml.Cursor
import MarkdownTree.Yaml.Fault

/-!
# The texts of scalars

A scalar is plain, quoted or a block. Each reader takes a cursor and returns the text of the
scalar and the place after it. The text of a quoted scalar is given by the numbers of its
characters, as escapes can spell halves of surrogate pairs, which are no characters. Line breaks
inside plain and quoted scalars are folded: a single one becomes a space, and of several the first
is dropped.
-/

namespace MarkdownTree.Yaml

/-- The text that folded breaks stand for, the first break apart. -/
def foldBreaks (first : Char) (others : List Char) : List Char :=
  if first ≠ '\n' then first :: others
  else if others.isEmpty then [' ']
  else others

/-! ### Plain scalars -/

/-- The characters of a plain scalar up to a gap, a colon that ends a key or, inside brackets, an
indicator. -/
def plainRun (inFlow : Bool) : List Char → List Char
  | [] => []
  | c :: rest =>
    let after := rest.head?.getD '\x00'
    if isGap c then []
    else if c = ':' && (isGap after || (inFlow && [',', '[', ']', '{', '}'].contains after)) then []
    else if inFlow && [',', '?', '[', ']', '{', '}'].contains c then []
    else c :: plainRun inFlow rest

/-- Line breaks and spaces between the lines of a plain scalar: the breaks and the place after
them, or none before a document separator. -/
def plainBreaks : Nat → Cursor → Option (List Char) × Cursor
  | 0, c => (some [], c)
  | fuel + 1, c =>
    if c.head = ' ' then plainBreaks fuel c.next
    else match c.lineBreak? with
      | none => (some [], c)
      | some (b, c) =>
        if c.atSeparator then (none, c)
        else
          let (bs, c) := plainBreaks fuel c
          (bs.map (b :: ·), c)

/-- What separates two stretches of a plain scalar, the place after it, and whether a line break
was passed. Nothing separates them if the scalar ends here. -/
def plainGap (c : Cursor) : List Char × Cursor × Bool :=
  let (spaces, c) := c.span (· = ' ')
  match c.lineBreak? with
  | none => (spaces, c, false)
  | some (b, c) =>
    if c.atSeparator then ([], c, true)
    else match plainBreaks (c.rest.length + 1) c with
      | (none, c) => ([], c, true)
      | (some bs, c) => (foldBreaks b bs, c, true)

/-- The text of a plain scalar, the place after it, and whether the line changed after the last
stretch of it. -/
def plainText (inFlow : Bool) (indent : Int) : Nat → List Char → Cursor → Bool →
    List Char × Cursor × Bool
  | 0, _, c, broken => ([], c, broken)
  | fuel + 1, gap, c, broken =>
    if c.head = '#' then ([], c, broken)
    else
      let run := plainRun inFlow c.rest
      if run.isEmpty then ([], c, broken)
      else
        let (gap', c, broken) := plainGap (c.advance run.length)
        if gap'.isEmpty || c.head = '#' || (!inFlow && (c.column : Int) < indent) then
          (gap ++ run, c, broken)
        else
          let (text, c, broken) := plainText inFlow indent fuel gap' c broken
          (gap ++ run ++ text, c, broken)

/-! ### Quoted scalars -/

/-- The character that a letter after a backslash stands for. -/
def escaped? (c : Char) : Option Char :=
  match c with
  | '0' => some '\x00'
  | 'a' => some '\x07'
  | 'b' => some '\x08'
  | 't' | '\t' => some '\t'
  | 'n' => some '\n'
  | 'v' => some '\x0b'
  | 'f' => some '\x0c'
  | 'r' => some '\r'
  | 'e' => some '\x1b'
  | ' ' | '"' | '\\' | '/' => some c
  | 'N' => some '\u0085'
  | '_' => some '\u00a0'
  | 'L' => some '\u2028'
  | 'P' => some '\u2029'
  | _ => none

/-- The number of hexadecimal digits that follow a letter after a backslash. -/
def escapeWidth? (c : Char) : Option Nat :=
  match c with
  | 'x' => some 2
  | 'u' => some 4
  | 'U' => some 8
  | _ => none

/-- The empty lines inside a quoted scalar, with the blanks before each of them dropped. -/
def quotedBreaks : Nat → Cursor → Except Fault (List Char × Cursor)
  | 0, c => .ok ([], c)
  | fuel + 1, c =>
    if c.atSeparator then .error (.form .separatorInQuotes)
    else
      let c := c.skip fun ch => ch = ' ' || ch = '\t'
      match c.lineBreak? with
      | none => .ok ([], c)
      | some (b, c) => (quotedBreaks fuel c).map fun (bs, c) => (b :: bs, c)

/-- The blanks inside a quoted scalar: kept within a line, folded at its end. -/
def quotedGap (c : Cursor) : Except Fault (List Char × Cursor) :=
  let (blanks, c) := c.span fun ch => ch = ' ' || ch = '\t'
  match c.lineBreak? with
  | some (b, c) => (quotedBreaks (c.rest.length + 1) c).map fun (bs, c) => (foldBreaks b bs, c)
  | none => if c.rest.isEmpty then .error (.form .unclosedQuotes) else .ok (blanks, c)

/-- The character with a number, which can be half of a surrogate pair. -/
def escapedCode (code : Nat) : Except Fault Nat :=
  if code ≤ 0x10FFFF then .ok code
  else if code < 0x80000000 then .error .noCharacter
  else .error (.scalar .escapeTooLarge)

/-- An escape after its backslash. -/
def quotedEscape (c : Cursor) : Except Fault (List Nat × Cursor) :=
  match escaped? c.head, escapeWidth? c.head with
  | some ch, _ => .ok ([ch.toNat], c.next)
  | none, some width =>
    let digits := c.next.rest.take width
    if digits.length = width && digits.all fun d => (Text.hexValue? d).isSome then
      (escapedCode (Text.hexNumber digits)).map fun code => ([code], c.next.advance width)
    else .error (.form .malformedEscape)
  | none, none =>
    match c.lineBreak? with
    | some (_, c) =>
      (quotedBreaks (c.rest.length + 1) c).map fun (bs, c) => (bs.map Char.toNat, c)
    | none => .error (.form .malformedEscape)

/-- The text of a quoted scalar after its opening quote, and the place after the closing one. -/
def quotedText (double : Bool) : Nat → Cursor → Except Fault (List Nat × Cursor)
  | 0, _ => .error (.form .unclosedQuotes)
  | fuel + 1, c =>
    let quote : Char := if double then '"' else '\x27'
    let more (part : List Nat) (c : Cursor) : Except Fault (List Nat × Cursor) :=
      (quotedText double fuel c).map fun (text, c) => (part ++ text, c)
    if isGap c.head then do
      let (part, c) ← quotedGap c
      more (part.map Char.toNat) c
    else if c.head = quote then
      if !double && c.peek 1 = quote then more [quote.toNat] (c.advance 2) else .ok ([], c.next)
    else if double && c.head = '\\' then do
      let (part, c) ← quotedEscape c.next
      more part c
    else more [c.head.toNat] c.next

/-! ### Block scalars -/

/-- What becomes of the line breaks at the end of a block. -/
inductive Chomping where
  | strip
  | clip
  | keep
  deriving DecidableEq

/-- The header of a block after its indicator: chomping and indentation in any order. -/
def blockHeader (c : Cursor) : Except Fault (Chomping × Option Nat × Cursor) := do
  let chomping? (c : Cursor) : Option Chomping × Cursor :=
    if c.head = '+' then (some .keep, c.next)
    else if c.head = '-' then (some .strip, c.next)
    else (none, c)
  let increment? (c : Cursor) : Except Fault (Option Nat × Cursor) :=
    if c.head.isDigit then
      if c.head = '0' then .error (.form .malformedBlockHeader)
      else .ok (some (c.head.toNat - '0'.toNat), c.next)
    else .ok (none, c)
  let (before, c) := chomping? c
  let (increment, c) ← increment? c
  let (after, c) := if before.isNone && increment.isSome then chomping? c else (none, c)
  if !endsWord c.head then throw (.form .malformedBlockHeader)
  return ((before.or after).getD .clip, increment, c)

/-- The rest of the line after a header or a directive: spaces and a comment. -/
def endOfLine (fault : FormFault) (c : Cursor) : Except Fault Cursor :=
  let c := c.skipSpaces.skipComment
  if endsLine c.head then .ok c.skipBreak else .error (.form fault)

/-- The empty lines at the beginning of a block, the widest indentation among them, and the place
after them. -/
def blockIndentation : Nat → Nat → Cursor → List Char × Nat × Cursor
  | 0, widest, c => ([], widest, c)
  | fuel + 1, widest, c =>
    if c.head = ' ' then blockIndentation fuel (max widest c.next.column) c.next
    else match c.lineBreak? with
      | some (b, c) =>
        let (bs, widest, c) := blockIndentation fuel widest c
        (b :: bs, widest, c)
      | none => ([], widest, c)

/-- Spaces up to column `indent`. -/
def skipIndent (indent : Nat) (c : Cursor) : Cursor :=
  c.advance (min (indent - c.column) (c.rest.takeWhile (· = ' ')).length)

/-- The empty lines of a block and the place after them. -/
def blockBreaks (indent : Nat) : Nat → Cursor → List Char × Cursor
  | 0, c => ([], c)
  | fuel + 1, c =>
    let c := skipIndent indent c
    match c.lineBreak? with
    | some (b, c) =>
      let (bs, c) := blockBreaks indent fuel c
      (b :: bs, c)
    | none => ([], c)

/-- The lines of a block, of which `breaks` are the empty ones before the cursor. -/
def blockLines (folded : Bool) (chomping : Chomping) (indent : Nat) :
    Nat → List Char → Cursor → List Char × Cursor
  | 0, _, c => ([], c)
  | fuel + 1, breaks, c =>
    let isBlank (ch : Char) : Bool := ch = ' ' || ch = '\t'
    let plainStart := !isBlank c.head
    let (line, c) := c.span (!endsLine ·)
    let (ending, c) := match c.lineBreak? with
      | some (b, c) => ([b], c)
      | none => ([], c)
    let (breaks', c) := blockBreaks indent (c.rest.length + 1) c
    if c.column = indent && !c.rest.isEmpty then
      let joint :=
        if folded && ending = ['\n'] && plainStart && !isBlank c.head then
          if breaks'.isEmpty then [' '] else []
        else ending
      let (text, c) := blockLines folded chomping indent fuel breaks' c
      (breaks ++ line ++ joint ++ text, c)
    else
      let tail := match chomping with
        | .strip => []
        | .clip => ending
        | .keep => ending ++ breaks'
      (breaks ++ line ++ tail, c)

/-- The text of a block scalar after its indicator, inside a collection indented by `parent`. -/
def blockText (folded : Bool) (parent : Int) (c : Cursor) : Except Fault (List Char × Cursor) := do
  let (chomping, increment, c) ← blockHeader c
  let c ← endOfLine .malformedBlockHeader c
  let least : Nat := max 1 (parent + 1).toNat
  let fuel := c.rest.length + 1
  let (breaks, indent, c) := match increment with
    | none =>
      let (breaks, widest, c) := blockIndentation fuel 0 c
      (breaks, max least widest, c)
    | some n =>
      let indent := least + n - 1
      let (breaks, c) := blockBreaks indent fuel c
      (breaks, indent, c)
  if c.column = indent && !c.rest.isEmpty then
    return blockLines folded chomping indent fuel breaks c
  else
    return (if chomping = .keep then breaks else [], c)

end MarkdownTree.Yaml
