import MarkdownTree.Text.Whitespace

/-!
# Paths

A path is the list of its parts, from the working directory on or from the root. Empty parts and
single periods say nothing and are dropped when a path is read; two periods stay.
-/

namespace MarkdownTree.Files

/-- A path. -/
structure Path where
  /-- The slashes in front of an absolute path. -/
  root : String := ""
  parts : List String := []
  deriving DecidableEq

namespace Path

/-- Reads a path. Two slashes in front of it, and not more, are kept. -/
def ofText (s : String) : Path :=
  let slashes := (s.toList.takeWhile (· = '/')).length
  { root := if slashes = 0 then "" else if slashes = 2 then "//" else "/"
    parts := ((Text.splitAt '/' s.toList).map String.ofList).filter fun p => p ≠ "" ∧ p ≠ "." }

/-- Writes a path; the working directory is a period. -/
def text (p : Path) : String :=
  if p.root = "" ∧ p.parts.isEmpty then "." else p.root ++ "/".intercalate p.parts

/-- The path `q` from the directory `p` on. -/
def join (p q : Path) : Path := if q.root = "" then { p with parts := p.parts ++ q.parts } else q

/-- The path of what stands below `p`, by the parts from there on. -/
def below (p : Path) (rest : List String) : Path := { p with parts := p.parts ++ rest }

/-- The last part. -/
def name (p : Path) : String := p.parts.getLast?.getD ""

/-- The number of characters of a name before its suffix. A period that begins or ends a name
begins no suffix. -/
def stemLength (name : List Char) : Nat :=
  let after := (name.reverse.takeWhile (· ≠ '.')).length
  let before := name.length - after - 1
  if after < name.length ∧ 0 < before ∧ 0 < after then before else name.length

/-- A name without its suffix. -/
def stem (name : String) : String := String.ofList (name.toList.take (stemLength name.toList))

/-- The suffix of a name, with its period. -/
def suffix (name : String) : String := String.ofList (name.toList.drop (stemLength name.toList))

end Path

end MarkdownTree.Files
