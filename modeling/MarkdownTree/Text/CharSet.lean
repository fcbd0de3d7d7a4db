import MarkdownTree.Text.Whitespace

/-!
# Sets of characters

A set is given by sorted, disjoint ranges of code points and is written as text: ranges in
hexadecimal, separated by white space, `41-5a` for a range and `5f` for a single character.
-/

namespace MarkdownTree.Text

/-- The value of a hexadecimal digit. -/
def hexValue? (c : Char) : Option Nat :=
  if '0' ≤ c ∧ c ≤ '9' then some (c.toNat - '0'.toNat)
  else if 'a' ≤ c ∧ c ≤ 'f' then some (c.toNat - 'a'.toNat + 10)
  else if 'A' ≤ c ∧ c ≤ 'F' then some (c.toNat - 'A'.toNat + 10)
  else none

/-- The number that hexadecimal digits stand for; other characters count as zero. -/
def hexNumber (cs : List Char) : Nat :=
  cs.foldl (fun n c => 16 * n + (hexValue? c).getD 0) 0

/-- The digit characters of `n` in base 16, in capitals, at least `width` of them. -/
def hexDigits (width n : Nat) : List Char :=
  let ds := (Nat.toDigits 16 n).map Char.toUpper
  List.replicate (width - ds.length) '0' ++ ds

/-- Sorted, disjoint ranges of code points. -/
structure CharSet where
  ranges : Array (Nat × Nat)

namespace CharSet

/-- Reads a set from its text. -/
def ofText (s : String) : CharSet :=
  ⟨((words s).map fun range =>
    match range.splitOn "-" with
    | [a, b] => (hexNumber a.toList, hexNumber b.toList)
    | _ => (hexNumber range.toList, hexNumber range.toList)).toArray⟩

/-- Halves the stretch `low ≤ i < high` of ranges until the one that may hold `n` is found. -/
def search (s : CharSet) (n low high : Nat) : Bool :=
  if _ : low < high then
    let middle := (low + high) / 2
    match s.ranges[middle]? with
    | none => false
    | some (a, b) =>
      if n < a then search s n low middle
      else if b < n then search s n (middle + 1) high
      else true
  else false
termination_by high - low

/-- Membership. -/
def contains (s : CharSet) (c : Char) : Bool := s.search c.toNat 0 s.ranges.size

end CharSet

end MarkdownTree.Text
