import MarkdownTree.Markdown.Block

/-!
# Definitions of references

A definition names a label, a target and perhaps a title, and can go on over several lines. The
lines are fetched one by one, when the text before them has been read up to its end, so that a
definition takes no more lines than it needs.
-/

namespace MarkdownTree.Markdown

open Syntax (Token Reference)

/-- The part of a definition that has been fetched and not yet read, and the line after it. -/
structure Fetched where
  rest : List Char
  next : Nat

namespace Frame

/-- The text of a line that can continue a definition. -/
def continuation? (f : Frame) (i : Nat) : Option (List Char) :=
  let mayBegin := !f.isCode i && 0 ≤ (f.line i).columns
  if f.lineCount ≤ i ∨ f.isEmpty i ∨ (mayBegin ∧ f.interrupts .definition i f.lineCount) then none
  else some (f.between (f.line i).textStart ((f.line i).stop + 1))

/-- Fetches one more line, if one can follow. -/
def fetch? (f : Frame) (t : Fetched) : Option Fetched :=
  (f.continuation? t.next).map fun line => { rest := t.rest ++ line, next := t.next + 1 }

/-- Fetches one more line or leaves all as it is. -/
def fetch (f : Frame) (t : Fetched) : Fetched := (f.fetch? t).getD t

/-- Reads a label up to its closing bracket; `seen` are the characters before, the last one first. -/
def definitionLabel? (f : Frame) : (steps : Nat) → (seen : List Char) → Fetched →
    Option (List Char × Fetched)
  | 0, _, _ => none
  | steps + 1, seen, t =>
    match t.rest with
    | [] => none
    | '\\' :: '\n' :: rest =>
      definitionLabel? f steps ('\n' :: '\\' :: seen) (f.fetch { t with rest })
    | '\\' :: c :: rest => definitionLabel? f steps (c :: '\\' :: seen) { t with rest }
    | c :: rest =>
      if c = '[' then none
      else if c = ']' then some (seen.reverse, { t with rest })
      else if c = '\n' then definitionLabel? f steps (c :: seen) (f.fetch { t with rest })
      else definitionLabel? f steps (c :: seen) { t with rest }

/-- Skips blanks and line feeds. -/
def skipGap (f : Frame) : (steps : Nat) → Fetched → Fetched
  | 0, t => t
  | steps + 1, t =>
    match t.rest with
    | c :: rest =>
      if c = '\n' then skipGap f steps (f.fetch { t with rest })
      else if Text.isSpaceOrTab c then skipGap f steps { t with rest }
      else t
    | [] => t

/-- Reads a title, which can go on over several lines. It has to be divided from the target before
it, by a gap or by going on over a line. -/
def definitionTitle? (f : Frame) : (steps : Nat) → (divided : Bool) → Fetched →
    Option (List Char × Fetched)
  | 0, _, _ => none
  | steps + 1, divided, t =>
    match Title.ofChars t.rest with
    | .absent => none
    | .closed title length =>
      if divided then some (title, { t with rest := t.rest.drop length }) else none
    | .unfinished =>
      match f.fetch? t with
      | some t => definitionTitle? f steps true t
      | none => none

/-- Whether nothing but blanks is left of the line. -/
def isLineDone (t : Fetched) : Bool :=
  (t.rest.dropWhile Text.isSpaceOrTab).head?.all (· = '\n')

/-- Reads what follows a target: its title, empty if there is none, and the line after the
definition. A title with something behind it is none. -/
def afterTarget? (f : Frame) (t : Fetched) : Option (List Char × Nat) :=
  let steps := f.source.size + 1
  let gap := f.skipGap steps t
  let divided := t.rest.head?.any fun c => c = '\n' || Text.isSpaceOrTab c
  match f.definitionTitle? steps divided gap with
  | some (title, after) =>
    if isLineDone after then some (title, after.next)
    else if !title.isEmpty ∧ isLineDone t then some ([], t.next)
    else none
  | none => if isLineDone t then some ([], t.next) else none

/-- A definition of a reference. -/
structure Definition where
  label : List Char
  target : List Char
  title : List Char
  /-- The line after the definition. -/
  next : Nat

/-- The definition that begins at a line. -/
def definition? (f : Frame) (i : Nat) : Option Definition := do
  let steps := f.source.size + 1
  let first := f.between (f.line i).textStart ((f.line i).stop + 1)
  guard (!f.isCode i && first.head? = some '[')
  let (label, t) ← f.definitionLabel? steps [] { rest := first.drop 1, next := i + 1 }
  guard (t.rest.head? = some ':')
  let t := f.skipGap steps { t with rest := t.rest.drop 1 }
  let (target, length) ← target? t.rest
  let target := linkTarget target
  guard (isSafeTarget target)
  let (title, next) ← f.afterTarget? { t with rest := t.rest.drop length }
  guard (Text.foldLabel (String.ofList label) != "")
  return { label, target, title, next }

/-- Reads a definition. The first one of a label counts. -/
def definition (f : Frame) (i : Nat) : BlockResult := do
  match f.definition? i with
  | none => noBlock
  | some d =>
    let label := Text.foldLabel (String.ofList d.label)
    let reference : Reference :=
      { href := .string (String.ofList d.target), title := .string (String.ofList d.title) }
    modify fun found =>
      if (Entries.get? found.references label).isSome then found
      else { found with references := Entries.set found.references label reference }
    block (if f.options.listsDefinitions then [leaf "definition" "" (some (i, d.next)) []] else [])
      d.next

end Frame

end MarkdownTree.Markdown
