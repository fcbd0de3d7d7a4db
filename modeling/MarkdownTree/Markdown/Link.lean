import MarkdownTree.Markdown.Inline
import MarkdownTree.Markdown.Target
import MarkdownTree.Text.LabelFolding

/-!
# Links, images and notes in a text

These constructs hold text between brackets. The closing bracket is found by going past the
constructs in between without reading them.
-/

namespace MarkdownTree.Markdown

open Syntax (Token Reference)

/-- Goes past constructs up to the bracket that closes `level` open ones. A link cannot hold a
link: with `alone`, a construct in brackets makes the search fail. -/
def findBracket (skip : Inline Unit) (alone : Bool) : (steps level : Nat) → Inline (Option Nat)
  | 0, _ => return none
  | steps + 1, level => do
    let s ← get
    match s.charAt? s.pos with
    | none => return none
    | some c =>
      if c = ']' ∧ level ≤ 1 then return some s.pos
      let level := if c = ']' then level - 1 else level
      skip
      if c ≠ '[' then findBracket skip alone steps level
      else if (← get).pos = s.pos + 1 then findBracket skip alone steps (level + 1)
      else if alone then return none
      else findBracket skip alone steps level

/-- The place of the bracket that closes the one at `start`. -/
def closingBracket? (skip : Inline Unit) (start : Nat) (alone : Bool) : Inline (Option Nat) := do
  let s ← get
  set (s.goTo (start + 1))
  let found ← findBracket skip alone (s.stop + 1 - start) 1
  modify (·.goTo s.pos)
  return found

/-- A target with a title, empty if there is none. -/
structure Destination where
  target : List Char := []
  title : List Char := []

/-- The number of blanks and line feeds at the beginning. -/
def gapLength (cs : List Char) : Nat :=
  (cs.takeWhile fun c => c = '\n' || Text.isSpaceOrTab c).length

/-- Reads the target and the title behind the opening parenthesis of a link, `cs` being what is
left of the stretch. Gives them, the number of characters before the closing parenthesis, and
whether that stands there; none if the stretch ends first. -/
def linkDestination? (cs : List Char) : Option (Destination × Nat × Bool) :=
  let gap := gapLength cs
  if cs.length ≤ gap then none
  else
    let cs' := cs.drop gap
    let (target, read) :=
      match target? cs' with
      | none => ([], 0)
      | some (target, length) =>
        let target := linkTarget target
        if isSafeTarget target then (target, length) else ([], 0)
    let afterTarget := cs'.drop read
    let gap' := gapLength afterTarget
    let beforeTitle := afterTarget.drop gap'
    let (title, titleRead) :=
      match if gap' = 0 then .absent else Title.ofChars beforeTitle with
      | .closed title length =>
        (title, length + gapLength (beforeTitle.drop length))
      | _ => ([], 0)
    let n := gap + read + gap' + titleRead
    some ({ target, title }, n, (cs.drop n).head? = some ')')

/-- The target that a label refers to, and the place after the reference. The label in a second
pair of brackets at `pos` counts; without it or if it is empty, it is the text `label` in the
first. -/
def referred? (skip : Inline Unit) (label : List Char) (labelStop pos : Nat) :
    Inline (Option (Destination × Nat)) := do
  let found : Found ← getThe Found
  if found.references.isEmpty then return none
  let s ← get
  let second ← if s.charAt? pos = some '[' then closingBracket? skip pos false else pure none
  let (label, next) :=
    match second with
    | some stop =>
      let second := s.between (pos + 1) stop
      (if second.isEmpty then label else second, stop + 1)
    | none => (label, labelStop + 1)
  match Entries.get? found.references (Text.foldLabel (String.ofList label)) with
  | none => return none
  | some r => return some ({ target := r.href.text.toList, title := r.title.text.toList }, next)

/-- The attributes of a link or an image; the target has the given name. -/
def Destination.attrs (d : Destination) (name : String) : Fields :=
  (name, .string (String.ofList d.target)) ::
    (if d.title.isEmpty then [] else [("title", .string (String.ofList d.title))])

/-- Reads a link. Where no target in parentheses can be read, the brackets may refer to a
definition; the search for a second label then begins behind the place where reading failed. -/
def readLink (inner : Readers) (silent : Bool) : Inline Bool := do
  let s ← get
  if s.head? ≠ some '[' then return false
  match ← closingBracket? inner.skip s.pos true with
  | none => return false
  | some labelStop =>
    let label := s.between (s.pos + 1) labelStop
    let opened := s.charAt? (labelStop + 1) = some '('
    let written := if opened then linkDestination? (s.between (labelStop + 2) s.stop) else none
    if opened && written.isNone then return false
    let destination ←
      match written with
      | some (d, n, true) => pure (some (d, labelStop + 2 + n + 1))
      | some (_, n, false) => referred? inner.skip label labelStop (labelStop + 2 + n + 1)
      | none => referred? inner.skip label labelStop (labelStop + 1)
    match destination with
    | none => return false
    | some (d, next) =>
      unless silent do
        modify fun s => { s with pos := s.pos + 1, stop := labelStop }
        modify (·.enter (opening "link" "a" none (d.attrs "href")))
        inner.read
        modify (·.leave (closing "link" "a"))
        modify ({ · with stop := s.stop })
      readUpTo next

/-- Reads an image. Its text is kept as it is written, but the notes in it count. -/
def readImage (inner : Readers) (silent : Bool) : Inline Bool := do
  let s ← get
  if s.head? ≠ some '!' ∨ s.charAt? (s.pos + 1) ≠ some '[' then return false
  match ← closingBracket? inner.skip (s.pos + 1) false with
  | none => return false
  | some labelStop =>
    let label := s.between (s.pos + 2) labelStop
    let destination ←
      if s.charAt? (labelStop + 1) = some '(' then
        match linkDestination? (s.between (labelStop + 2) s.stop) with
        | some (d, n, true) => pure (some (d, labelStop + 2 + n + 1))
        | _ => pure none
      else referred? inner.skip label labelStop (labelStop + 1)
    match destination with
    | none => return false
    | some (d, next) =>
      unless silent do
        let _ ← inner.readApart label
        modify (·.push { leaf "image" "img" none label with attrs := d.attrs "src" })
      readUpTo next

/-- Gives the note with a number a new form. -/
def setNote (number : Int) (note : Note) : Inline Unit :=
  modifyThe Found fun found => { found with notes := Entries.set found.notes number note }

/-- Reads a note in the text. It takes its number before its text is read. -/
def readNote (inner : Readers) (silent : Bool) : Inline Bool := do
  let s ← get
  if s.stop ≤ s.pos + 2 ∨ s.head? ≠ some '^' ∨ s.charAt? (s.pos + 1) ≠ some '[' then return false
  match ← closingBracket? inner.skip (s.pos + 1) false with
  | none => return false
  | some stop =>
    unless silent do
      let number : Int := (← getThe Found).notes.length
      setNote number (.inText [])
      setNote number (.inText (← inner.readApart (s.between (s.pos + 2) stop)))
      modify (·.push { leaf "footnote_ref" "" none [] with details := [("id", .int number)] })
    readUpTo (stop + 1)

/-- The number of the note with a label, which it takes with the first reference to it, and the
number of the references before this one. -/
def countReference (label : String) : Inline (Int × Nat) := do
  let found ← getThe Found
  let known := (Entries.get? found.noteNumbers label).getD (-1)
  let number : Int := if 0 ≤ known then known else found.notes.length
  let count := match Entries.get? found.notes number with
    | some (.labelled count) => count
    | _ => 0
  set { found with notes := Entries.set found.notes number (.labelled (count + 1)),
                   noteNumbers := Entries.set found.noteNumbers label number }
  return (number, count)

/-- Reads a reference to a note that is defined somewhere. -/
def readNoteReference (silent : Bool) : Inline Bool := do
  let s ← get
  let found ← getThe Found
  match s.rest with
  | '[' :: '^' :: rest =>
    let label := rest.takeWhile (· ≠ ']')
    let next := s.pos + label.length + 3
    let name := String.ofList label
    if label.isEmpty ∨ label.length = rest.length ∨ label.contains ' ' ∨ label.contains '\n' ∨
        (Entries.get? found.noteNumbers name).isNone then
      return false
    unless silent do
      let (number, count) ← countReference name
      modify (·.push { leaf "footnote_ref" "" none [] with
        details := [("id", .int number), ("subId", .int count), ("label", .string name)] })
    readUpTo next
  | _ => return false

/-- Tries readers one after the other until one has read a construct. -/
def firstOf : List (Inline Bool) → Inline Bool
  | [] => return false
  | reader :: readers => do if ← reader then return true else firstOf readers

/-- Reads the construct at the next place, if one begins there. -/
def readConstruct (inner : Readers) (silent : Bool) : Inline Bool := do
  if (← get).options.plain then
    firstOf [readPlainText silent, readTildes silent, readNote inner silent,
      readNoteReference silent]
  else
    firstOf [readPlainText silent, readLineEnd silent, readEscape silent, readCode silent,
      readTildes silent, readEmphasis silent, readLink inner silent, readImage inner silent,
      readNote inner silent, readNoteReference silent, readBareAddress silent, readHtml silent,
      readCharacterReference silent]

/-- Goes past the construct or the character at the next place. Where nothing is read any more, it
goes behind the end of the stretch. -/
def skipConstruct (inner : Readers) : Inline Unit := do
  let s ← get
  match s.reach[s.pos]? with
  | some pos => modify (·.goTo pos)
  | none =>
    if s.options.limit.reached s.level then modify (·.goTo (s.stop + 1))
    else
      set { s with level := s.level + 1 }
      let found ← readConstruct inner true
      modify fun t => { t with level := s.level }
      unless found do modify fun t => t.goTo (t.pos + 1)
    modify fun t => { t with reach := t.reach.insert s.pos t.pos }

/-- Reads constructs up to the end of the stretch. What is none of them is text. -/
def readStretch (inner : Readers) : (steps : Nat) → Inline Unit
  | 0 => return ()
  | steps + 1 => do
    let s ← get
    match s.charAt? s.pos with
    | none => modify (·.flush)
    | some c =>
      let found ←
        if s.options.limit.reached s.level then pure false else readConstruct inner false
      unless found do modify fun s => (s.keep [c]).goTo (s.pos + 1)
      readStretch inner steps

/-- Readers for constructs of which at most `depth` stand in each other. -/
def readers : (depth : Nat) → Readers
  | 0 =>
    { skip := modify fun s => s.goTo (s.pos + 1)
      read := return ()
      readApart := fun _ => return [] }
  | depth + 1 =>
    let inner := readers depth
    { skip := skipConstruct inner
      read := do readStretch inner ((← get).stop + 1)
      readApart := fun text => do
        let options := (← get).options
        let (_, s) ← (readStretch inner (text.length + 1)).run (Stretch.ofChars options text)
        return s.finish }

/-- Reads the text of a paragraph, a heading or a cell. -/
def readText (options : Options) (text : List Char) : Reading (List Token) := do
  let (_, s) ← (readStretch (readers (text.length + 1)) (text.length + 1)).run
    (Stretch.ofChars options text)
  return s.finish

end MarkdownTree.Markdown
