import MarkdownTree.Yaml.ScalarText

/-!
# Tokens of YAML

A text is cut into tokens from left to right. In block context the indentation opens and closes
collections. A key is only recognised at the colon behind it; until then its place among the
tokens is remembered as a candidate, and the tokens in front of it are inserted afterwards. Where
the scan meets a fault, the tokens before it are kept, as their reader may find a fault first.
-/

namespace MarkdownTree.Yaml

/-- A tag as it is written: a handle, if there is one, and a suffix. -/
structure WrittenTag where
  handle : Option String
  suffix : String
  deriving DecidableEq

inductive Token where
  | version (major : Int)
  | tagPrefix (handle target : String)
  | otherDirective
  | documentStart
  | documentEnd
  | streamEnd
  | blockSequenceStart
  | blockMappingStart
  | blockEnd
  | flowSequenceStart
  | flowSequenceEnd
  | flowMappingStart
  | flowMappingEnd
  | blockEntry
  | flowEntry
  | key
  | value
  | alias (name : String)
  | anchor (name : String)
  | tag (tag : WrittenTag)
  | scalar (plain : Bool) (text : String)
  /-- A quoted scalar with halves of surrogate pairs, by the numbers of its characters. -/
  | surrogates (codes : List Nat)
  deriving DecidableEq

/-- The quoted scalar with the given characters. -/
def Token.ofCodes (codes : List Nat) : Token :=
  if codes.all fun n => decide n.isValidChar then
    .scalar false (String.ofList (codes.map Char.ofNat))
  else .surrogates codes

/-- A place where a key may have begun. -/
structure Candidate where
  /-- The number of tokens before it. -/
  tokenCount : Nat
  /-- Whether it has to be a key because nothing else can stand there. -/
  required : Bool
  index : Nat
  line : Nat
  column : Nat

/-- How far the scan of a text is. -/
structure Scan where
  cursor : Cursor
  /-- The number of open brackets. -/
  flowLevel : Nat := 0
  tokens : Array Token := #[]
  /-- Tokens to be inserted in front of the token with the given number, the last ones first. -/
  insertions : List (Nat × List Token) := []
  indent : Int := -1
  /-- The indentations of the collections around the current one. -/
  outer : List Int := []
  allowKey : Bool := true
  /-- The candidates by the number of open brackets. -/
  candidates : List (Nat × Candidate) := []

namespace Scan

/-- A step of a scan. -/
abbrev Step := Scan → Except Fault Scan

/-- Adds a token. -/
def push (t : Token) (s : Scan) : Scan := { s with tokens := s.tokens.push t }

/-- Moves to another place. -/
def moveTo (c : Cursor) (s : Scan) : Scan := { s with cursor := c }

/-- Allows or forbids a key at the next token. -/
def setAllowKey (b : Bool) (s : Scan) : Scan := { s with allowKey := b }

/-- Whether a candidate is no longer possible: a key stands on one line and is at most 1024
characters long. -/
def isStale (s : Scan) (k : Candidate) : Bool :=
  k.line ≠ s.cursor.line || 1024 < s.cursor.index - k.index

/-- Drops candidates that are no longer possible. -/
def dropStale : Step := fun s =>
  if s.candidates.any fun e => s.isStale e.2 && e.2.required then .error (.form .missingColon)
  else .ok { s with candidates := s.candidates.filter fun e => !s.isStale e.2 }

/-- Drops the candidate at the present level. -/
def dropCandidate : Step := fun s =>
  if s.candidates.any fun e => e.1 = s.flowLevel && e.2.required then .error (.form .missingColon)
  else .ok { s with candidates := s.candidates.filter (·.1 ≠ s.flowLevel) }

/-- Makes the present place a candidate, if a key is allowed there. -/
def saveCandidate : Step := fun s =>
  if s.allowKey then do
    let c := s.cursor
    let s ← dropCandidate s
    let candidate : Candidate :=
      { tokenCount := s.tokens.size, required := s.flowLevel = 0 && s.indent = c.column,
        index := c.index, line := c.line, column := c.column }
    return { s with candidates := (s.flowLevel, candidate) :: s.candidates }
  else .ok s

/-- Closes the block collections that are indented by more than `column`. -/
def unwind (column : Int) : List Int → Scan → Scan
  | [], s => s
  | i :: outer, s =>
    if s.flowLevel = 0 && column < s.indent then
      unwind column outer { push .blockEnd s with indent := i, outer := outer }
    else s

/-- Closes the block collections that are indented by more than `column`. -/
def unwindTo (column : Int) (s : Scan) : Scan := unwind column s.outer s

/-- Opens a block collection indented by `column`, unless one is open there. -/
def openBlock (start : Token) (column : Nat) (s : Scan) : Scan :=
  if s.indent < column then
    push start { s with indent := column, outer := s.indent :: s.outer }
  else s

/-- Skips spaces, comments and line breaks; a line break allows a key in block context. -/
def toNextToken : Nat → Scan → Scan
  | 0, s => s
  | fuel + 1, s =>
    let c := s.cursor.skipSpaces.skipComment
    match c.lineBreak? with
    | some (_, c) =>
      toNextToken fuel { s with cursor := c, allowKey := s.allowKey || s.flowLevel = 0 }
    | none => { s with cursor := c }

/-- A letter, a digit, a hyphen or a low line. -/
def isNameCharacter (c : Char) : Bool := c.isAlphanum || c = '-' || c = '_'

/-- A character of a tag's address other than the percent sign. -/
def isAddressCharacter (c : Char) : Bool :=
  isNameCharacter c || ";/?:@&=+$,.!~*\x27()[]".contains c

/-- The bytes of escapes such as `%C3%A9` at the front of a text, and how many characters they
take. -/
def escapedBytes : List Char → Except Fault (List UInt8)
  | '%' :: a :: b :: rest =>
    match Text.hexValue? a, Text.hexValue? b with
    | some x, some y => (escapedBytes rest).map (UInt8.ofNat (16 * x + y) :: ·)
    | _, _ => .error (.form .malformedTag)
  | '%' :: _ => .error (.form .malformedTag)
  | _ => .ok []

/-- The address at a cursor, with its escapes read, and the place after it. -/
def address : Nat → Cursor → Except Fault (List Char × Cursor)
  | 0, c => .ok ([], c)
  | fuel + 1, c =>
    if c.head = '%' then do
      let bytes ← escapedBytes c.rest
      match String.fromUTF8? ⟨bytes.toArray⟩ with
      | none => throw (.form .malformedTag)
      | some text =>
        let (rest, c) ← address fuel (c.advance (3 * bytes.length))
        return (text.toList ++ rest, c)
    else
      match c.span isAddressCharacter with
      | ([], c) => .ok ([], c)
      | (run, c) => (address fuel c).map fun (rest, c) => (run ++ rest, c)

/-- The address at a cursor, which cannot be empty. -/
def nonemptyAddress (fault : FormFault) (c : Cursor) : Except Fault (String × Cursor) := do
  let (cs, c) ← address (c.rest.length + 1) c
  if cs.isEmpty then throw (.form fault)
  return (String.ofList cs, c)

/-- The handle of a tag, such as `!` or `!name!`, and the place after it. -/
def tagHandle (fault : FormFault) (c : Cursor) : Except Fault (String × Cursor) :=
  if c.head ≠ '!' then .error (.form fault)
  else if c.peek 1 = ' ' then .ok ("!", c.next)
  else
    let (name, c) := c.next.span isNameCharacter
    if c.head = '!' then .ok (String.ofList ('!' :: name ++ ['!']), c.next)
    else .error (.form fault)

/-- A part of a version, and the place after it. -/
def versionNumber (c : Cursor) : Except Fault (Int × Cursor) := do
  let (digits, c) := c.span Char.isDigit
  if digits.isEmpty then throw (.form .malformedDirective)
  let n ← (Text.readInteger 10 (String.ofList digits)).mapError .integer
  return (n, c)

/-- A directive after its percent sign. -/
def directive (c : Cursor) : Except Fault (Token × Cursor) := do
  let fault := Fault.form .malformedDirective
  let (name, c) := c.span isNameCharacter
  if name.isEmpty || !endsWord c.head then throw fault
  let (token, c) ←
    if name = "YAML".toList then
      let (major, c) ← versionNumber c.skipSpaces
      if c.head ≠ '.' then throw fault
      let (_, c) ← versionNumber c.next
      if !endsWord c.head then throw fault
      pure (Token.version major, c)
    else if name = "TAG".toList then
      let (handle, c) ← tagHandle .malformedDirective c.skipSpaces
      if c.head ≠ ' ' then throw fault
      let (target, c) ← nonemptyAddress .malformedDirective c.skipSpaces
      if !endsWord c.head then throw fault
      pure (Token.tagPrefix handle target, c)
    else
      pure (Token.otherDirective, c.skip (!endsLine ·))
  let c ← endOfLine .malformedDirective c
  return (token, c)

/-- The name of an anchor or alias and the place after it. -/
def anchorName (c : Cursor) : Except Fault (String × Cursor) :=
  let (name, c) := c.span isNameCharacter
  if name.isEmpty || !(isGap c.head || "?:,]\x7d%@\x60".contains c.head) then
    .error (.form .malformedAnchor)
  else .ok (String.ofList name, c)

/-- A tag and the place after it. -/
def tag (c : Cursor) : Except Fault (WrittenTag × Cursor) := do
  let (t, c) ←
    if c.peek 1 = '<' then
      let (suffix, c) ← nonemptyAddress .malformedTag (c.advance 2)
      if c.head ≠ '>' then throw (.form .malformedTag)
      pure (WrittenTag.mk none suffix, c.next)
    else if isGap (c.peek 1) then pure (WrittenTag.mk none "!", c.next)
    else
      let word := c.next.rest.takeWhile (!endsWord ·)
      let (handle, c) ←
        if word.contains '!' then tagHandle .malformedTag c else pure ("!", c.next)
      let (suffix, c) ← nonemptyAddress .malformedTag c
      pure (WrittenTag.mk (some handle) suffix, c)
  if !endsWord c.head then throw (.form .malformedTag)
  return (t, c)

/-- A token of fixed form that is `width` characters long. -/
def indicator (t : Token) (width : Nat) (s : Scan) : Scan :=
  push t (moveTo (s.cursor.advance width) s)

/-- A document marker closes all block collections. -/
def documentMarker (t : Token) : Step := fun s => do
  let s ← dropCandidate (unwindTo (-1) s)
  return indicator t 3 (setAllowKey false s)

/-- An opening bracket. -/
def flowStart (t : Token) : Step := fun s => do
  let s ← saveCandidate s
  return indicator t 1 { s with flowLevel := s.flowLevel + 1, allowKey := true }

/-- A closing bracket. -/
def flowEnd (t : Token) : Step := fun s => do
  if s.flowLevel = 0 then throw (.form .unexpectedToken)
  let s ← dropCandidate s
  return indicator t 1 { s with flowLevel := s.flowLevel - 1, allowKey := false }

/-- A comma between brackets. -/
def flowEntry : Step := fun s => do
  let s ← dropCandidate (setAllowKey true s)
  return indicator .flowEntry 1 s

/-- The hyphen of a sequence entry. -/
def blockEntry : Step := fun s => do
  if s.flowLevel = 0 && !s.allowKey then throw (.form .entryNotAllowed)
  let s := if s.flowLevel = 0 then openBlock .blockSequenceStart s.cursor.column s else s
  let s ← dropCandidate (setAllowKey true s)
  return indicator .blockEntry 1 s

/-- A question mark in front of a key. -/
def explicitKey : Step := fun s => do
  if s.flowLevel = 0 && !s.allowKey then throw (.form .keyNotAllowed)
  let s := if s.flowLevel = 0 then openBlock .blockMappingStart s.cursor.column s else s
  let s ← dropCandidate (setAllowKey (s.flowLevel = 0) s)
  return indicator .key 1 s

/-- A colon in front of a value. If there is a candidate, it was a key. -/
def value : Step := fun s =>
  match s.candidates.find? (·.1 = s.flowLevel) with
  | some (_, k) =>
    let s := { s with candidates := s.candidates.filter (·.1 ≠ s.flowLevel), allowKey := false }
    let opens : Bool := s.flowLevel = 0 && s.indent < (k.column : Int)
    let inserted := if opens then [Token.blockMappingStart, .key] else [.key]
    let s := { s with insertions := (k.tokenCount, inserted) :: s.insertions }
    let s := if opens then { s with indent := k.column, outer := s.indent :: s.outer } else s
    .ok (indicator .value 1 s)
  | none => do
    if s.flowLevel = 0 && !s.allowKey then throw (.form .valueNotAllowed)
    let s := if s.flowLevel = 0 then openBlock .blockMappingStart s.cursor.column s else s
    let s ← dropCandidate (setAllowKey (s.flowLevel = 0) s)
    return indicator .value 1 s

/-- A token that can be a key or belong to one. -/
def keyPart (read : Cursor → Except Fault (Token × Cursor)) : Step := fun s => do
  let s ← saveCandidate s
  let (t, c) ← read s.cursor
  return push t (moveTo c (setAllowKey false s))

/-- A quoted scalar. -/
def quoted (double : Bool) : Step :=
  keyPart fun c => (quotedText double (c.rest.length + 1) c.next).map fun (codes, c) =>
    (.ofCodes codes, c)

/-- A plain scalar; a line break after it allows a key again. -/
def plain : Step := fun s => do
  let s ← saveCandidate s
  let (text, c, broken) :=
    plainText (s.flowLevel ≠ 0) (s.indent + 1) (s.cursor.rest.length + 1) [] s.cursor false
  return push (.scalar true (String.ofList text)) (moveTo c (setAllowKey broken s))

/-- A block scalar. -/
def block (folded : Bool) : Step := fun s => do
  let s ← dropCandidate (setAllowKey true s)
  let (text, c) ← blockText folded s.indent s.cursor.next
  return push (.scalar false (String.ofList text)) (moveTo c s)

/-- Whether a plain scalar can begin at a cursor. -/
def beginsPlain (inFlow : Bool) (c : Cursor) : Bool :=
  !(isGap c.head || "-?:,[]\x7b\x7d#&*!|>\x27\"%@\x60".contains c.head) ||
    (!isGap (c.peek 1) && (c.head = '-' || (!inFlow && (c.head = '?' || c.head = ':'))))

/-- The next token; the cursor stands at it. -/
def token : Step := fun s =>
  let c := s.cursor
  let inFlow : Bool := s.flowLevel ≠ 0
  if c.head = '%' && c.column = 0 then do
    let s ← dropCandidate (unwindTo (-1) s)
    let (t, c) ← directive s.cursor.next
    return push t (moveTo c (setAllowKey false s))
  else if c.column = 0 && c.atMarker '-' then documentMarker .documentStart s
  else if c.column = 0 && c.atMarker '.' then documentMarker .documentEnd s
  else if c.head = '[' then flowStart .flowSequenceStart s
  else if c.head = '{' then flowStart .flowMappingStart s
  else if c.head = ']' then flowEnd .flowSequenceEnd s
  else if c.head = '}' then flowEnd .flowMappingEnd s
  else if c.head = ',' then flowEntry s
  else if c.head = '-' && isGap (c.peek 1) then blockEntry s
  else if c.head = '?' && (inFlow || isGap (c.peek 1)) then explicitKey s
  else if c.head = ':' && (inFlow || isGap (c.peek 1)) then value s
  else if c.head = '*' then
    keyPart (fun c => (anchorName c.next).map fun (n, c) => (.alias n, c)) s
  else if c.head = '&' then
    keyPart (fun c => (anchorName c.next).map fun (n, c) => (.anchor n, c)) s
  else if c.head = '!' then keyPart (fun c => (tag c).map fun (t, c) => (.tag t, c)) s
  else if c.head = '|' && !inFlow then block false s
  else if c.head = '>' && !inFlow then block true s
  else if c.head = '\x27' then quoted false s
  else if c.head = '"' then quoted true s
  else if beginsPlain inFlow c then plain s
  else .error (.form (.noTokenBegins c.head))

/-- Goes to the next token. -/
def toToken : Step := fun s => do
  let s ← dropStale (toNextToken (s.cursor.rest.length + 1) s)
  return unwindTo s.cursor.column s

/-- The end of the text. -/
def finish : Step := fun s => do
  let s ← dropCandidate (unwindTo (-1) s)
  return push .streamEnd s

/-- Scans up to the end of the text. A fault comes with how far the scan is before the token that it
is met in. -/
def run : Nat → Scan → Except (Fault × Scan) Scan
  | 0, s => .ok s
  | fuel + 1, s => do
    let s' ← (toToken s).mapError (·, s)
    if s'.cursor.rest.isEmpty then (finish s').mapError (·, s)
    else run fuel (← (token s').mapError (·, s))

/-- The number of tokens that stay as they are. The one at a candidate may not: a key can have to be
inserted in front of it. -/
def settled (s : Scan) : Nat :=
  (s.candidates.filter fun e => !s.isStale e.2).foldl (fun n e => min n e.2.tokenCount)
    s.tokens.size

/-- The tokens from number `i` on with the insertions put in front of their places; insertions at
the same place stand in the order in which they were made. -/
def linearise (insertions : List (Nat × List Token)) : Nat → List Token → List Token
  | _, [] => []
  | i, t :: ts =>
    (insertions.reverse.filter (·.1 = i)).flatMap Prod.snd ++ t :: linearise insertions (i + 1) ts

end Scan

/-- The characters that a text can hold. -/
def isPrintable (c : Char) : Bool :=
  let n := c.toNat
  c = '\t' || c = '\n' || c = '\r' || (0x20 ≤ n && n ≤ 0x7E) || n = 0x85 ||
    (0xA0 ≤ n && n ≤ 0xFFFD) || 0x10000 ≤ n

/-- The tokens of a text, up to the fault that ends them if there is one. -/
def tokens (text : String) : List Token × Option Fault :=
  let cs := text.toList
  match cs.find? fun c => !isPrintable c with
  | some c => ([], some (.form (.unprintable c)))
  | none =>
    let start : Cursor := ⟨cs, 0, 0, 0⟩
    let start := if start.head = '\ufeff' then start.next else start
    match Scan.run (cs.length + 1) { cursor := start } with
    | .ok s => (Scan.linearise s.insertions 0 s.tokens.toList, none)
    | .error (fault, s) =>
      (Scan.linearise s.insertions 0 (s.tokens.toList.take s.settled), some fault)

end MarkdownTree.Yaml
