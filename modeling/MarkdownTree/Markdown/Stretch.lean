import MarkdownTree.Markdown.Delimiter
import MarkdownTree.Markdown.Frame
import Std.Data.HashMap

/-!
# Stretches of text

The text of a paragraph is read from left to right. A stretch is the part that is being read, with
what has been read of it: the tokens, the characters that are not yet in a token, and the delimiters
that wait for a partner. The text of a link is a stretch within the stretch of its paragraph.
-/

namespace MarkdownTree.Markdown

open Syntax (Token Reference)

/-- A text while it is being read. -/
structure Stretch where
  options : Options
  source : Array Char
  /-- The place of the next character. -/
  pos : Nat := 0
  /-- The place where the stretch ends. -/
  stop : Nat
  /-- The number of constructs around the stretch. -/
  level : Nat := 0
  /-- The characters that are not yet in a token, the last one first. -/
  pending : List Char := []
  tokens : Array Token := #[]
  /-- The delimiters of the construct that is open. -/
  delimiters : Array Delimiter := #[]
  /-- The delimiters of the constructs around it. -/
  outer : List (Array Delimiter) := []
  /-- The delimiters of constructs that are closed. -/
  done : List (Array Delimiter) := []
  /-- The places to which the construct at a place is known to reach. -/
  reach : Std.HashMap Nat Nat := {}
  /-- The last place at which a run of backticks of some length is known to stand. -/
  backticks : Entries Nat Nat := []
  /-- Whether all runs of backticks are known. -/
  backticksKnown : Bool := false

/-- A step in a stretch. -/
abbrev Inline := StateT Stretch Reading

namespace Stretch

/-- The characters between two places. -/
def between (s : Stretch) (start stop : Nat) : List Char := (s.source.extract start stop).toList

/-- The character at the next place. -/
def head? (s : Stretch) : Option Char := s.source[s.pos]?

/-- The character at a place before the end of the stretch. -/
def charAt? (s : Stretch) (i : Nat) : Option Char := if i < s.stop then s.source[i]? else none

/-- What is left of the stretch. -/
def rest (s : Stretch) : List Char := s.between s.pos s.stop

/-- The text of a reader's own: a stretch of its own. -/
def ofChars (options : Options) (text : List Char) : Stretch :=
  { options, source := text.toArray, stop := text.length }

/-- Goes to a place. -/
def goTo (s : Stretch) (pos : Nat) : Stretch := { s with pos }

/-- Keeps characters for a token. -/
def keep (s : Stretch) (cs : List Char) : Stretch := { s with pending := cs.reverse ++ s.pending }

/-- Makes a token of the characters kept. -/
def flush (s : Stretch) : Stretch :=
  if s.pending.isEmpty then s
  else { s with tokens := s.tokens.push (leaf "text" "" none s.pending.reverse), pending := [] }

/-- Adds a token that stands for itself. -/
def push (s : Stretch) (t : Token) : Stretch :=
  let s := s.flush
  { s with tokens := s.tokens.push t }

/-- Adds a token that opens a construct. -/
def enter (s : Stretch) (t : Token) : Stretch :=
  let s := s.push t
  { s with level := s.level + 1, outer := s.delimiters :: s.outer, delimiters := #[] }

/-- Adds a token that closes the construct. -/
def leave (s : Stretch) (t : Token) : Stretch :=
  let s := s.push t
  { s with level := s.level - 1, done := s.delimiters :: s.done,
           delimiters := s.outer.head?.getD #[], outer := s.outer.drop 1 }

/-- Adds a delimiter with the given text. -/
def pushDelimiter (s : Stretch) (text : List Char) (d : Delimiter) : Stretch :=
  let s := s.push (leaf "text" "" none text)
  { s with delimiters := s.delimiters.push { d with token := s.tokens.size - 1 } }

/-- The tokens of what has been read, with those that the delimiters make. -/
def finish (s : Stretch) : List Token := markDelimiters s.tokens (s.delimiters :: s.done)

end Stretch

/-- The readers that the reader of a construct calls for what stands in it. -/
structure Readers where
  /-- Goes past one construct or character without reading it. -/
  skip : Inline Unit
  /-- Reads the stretch up to its end. -/
  read : Inline Unit
  /-- Reads a text on its own. -/
  readApart : List Char → Inline (List Token)

/-- Goes to a place and reports that a construct has been read. -/
def readUpTo (pos : Nat) : Inline Bool := do
  modify (·.goTo pos)
  return true

/-- Adds a token unless the construct is only looked at, goes to a place and reports that a
construct has been read. -/
def readToken (silent : Bool) (t : Token) (pos : Nat) : Inline Bool := do
  unless silent do modify (·.push t)
  readUpTo pos

end MarkdownTree.Markdown
