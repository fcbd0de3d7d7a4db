import MarkdownTree.Markdown.CharacterReference

/-!
# Targets and titles of links

A target stands between angle brackets or has no blanks and balanced parentheses. A title stands in
quotes or parentheses and can go on over several lines of a reference definition.
-/

namespace MarkdownTree.Markdown

/-- The characters up to the one that ends a target in angle brackets, and their number. A
backslash keeps the character after it from ending the target. -/
def bracketedLength? : List Char → Option Nat
  | [] => none
  | '\\' :: _ :: rest => (bracketedLength? rest).map (· + 2)
  | c :: rest =>
    if c = '>' then some 0
    else if c = '\n' ∨ c = '<' then none
    else (bracketedLength? rest).map (· + 1)

/-- The length of a target without brackets, with `depth` parentheses open. At most 32 can be open
at once, and all have to be closed. -/
def bareLength? (depth : Nat) : List Char → Option Nat
  | [] => if depth = 0 then some 0 else none
  | '\\' :: c :: rest =>
    if c = ' ' then if depth = 0 then some 0 else none
    else (bareLength? depth rest).map (· + 2)
  | c :: rest =>
    if c.toNat ≤ 0x20 ∨ c.toNat = 0x7F ∨ (c = ')' ∧ depth = 0) then
      if depth = 0 then some 0 else none
    else if c = '(' then if depth < 32 then (bareLength? (depth + 1) rest).map (· + 1) else none
    else if c = ')' then (bareLength? (depth - 1) rest).map (· + 1)
    else (bareLength? depth rest).map (· + 1)

/-- The target at the beginning and its length. -/
def target? (cs : List Char) : Option (List Char × Nat) :=
  match cs with
  | '<' :: rest => (bracketedLength? rest).map fun n => (unescape (rest.take n), n + 2)
  | _ =>
    match bareLength? 0 cs with
    | some 0 => none
    | some n => some (unescape (cs.take n), n)
    | none => none

/-- What the reading of a title comes to. -/
inductive Title where
  /-- The title and its length with both marks. -/
  | closed (title : List Char) (length : Nat)
  /-- The text ends before the mark that closes the title. -/
  | unfinished
  /-- No title begins here, or it holds what it cannot hold. -/
  | absent

/-- Reads a title up to the mark `close`; `seen` are the characters before, the last one first. A
title in parentheses cannot hold an opening one. -/
def Title.upTo (close : Char) (seen : List Char) : List Char → Title
  | [] => .unfinished
  | '\\' :: c :: rest => upTo close (c :: '\\' :: seen) rest
  | c :: rest =>
    if c = close then .closed (unescape seen.reverse) (seen.length + 2)
    else if c = '(' ∧ close = ')' then .absent
    else upTo close (c :: seen) rest

/-- The mark that closes a title which `c` opens. -/
def closingMark? (c : Char) : Option Char :=
  if c = '"' ∨ c = '\x27' then some c else if c = '(' then some ')' else none

/-- Reads the title at the beginning. -/
def Title.ofChars : List Char → Title
  | [] => .absent
  | c :: rest =>
    match closingMark? c with
    | some close => upTo close [] rest
    | none => .absent

end MarkdownTree.Markdown
