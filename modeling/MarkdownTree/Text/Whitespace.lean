/-!
# Whitespace

Three sets of blank characters occur in the formats. `isSpaceOrTab` separates words on a line of
Markdown, `isWhitespace` is the Unicode property, and `isBlank` adds to it the four information
separators U+001C to U+001F. Trimming and splitting at blanks use the last one.
-/

namespace MarkdownTree.Text

/-- A space or a tab. -/
def isSpaceOrTab (c : Char) : Bool := c == ' ' || c == '\t'

/-- The characters with the Unicode property White_Space. -/
def isWhitespace (c : Char) : Bool :=
  let n := c.toNat
  (0x09 ≤ n && n ≤ 0x0D) || n == 0x20 || n == 0x85 || n == 0xA0 || n == 0x1680 ||
    (0x2000 ≤ n && n ≤ 0x200A) || n == 0x2028 || n == 0x2029 || n == 0x202F || n == 0x205F ||
    n == 0x3000

/-- White_Space and the information separators. -/
def isBlank (c : Char) : Bool :=
  isWhitespace c || (0x1C ≤ c.toNat && c.toNat ≤ 0x1F)

/-- The characters that Markdown takes for whitespace beside a delimiter run: the space
separators of Unicode, tab, line feed, line tabulation, form feed and carriage return. -/
def isFlankingSpace (c : Char) : Bool :=
  let n := c.toNat
  (0x09 ≤ n && n ≤ 0x0D) || n == 0x20 || n == 0xA0 || n == 0x1680 ||
    (0x2000 ≤ n && n ≤ 0x200A) || n == 0x202F || n == 0x205F || n == 0x3000

/-- Drops characters of `p` at both ends. -/
def trimBy (p : Char → Bool) (cs : List Char) : List Char :=
  ((cs.dropWhile p).reverse.dropWhile p).reverse

/-- Puts a character in front of the first piece, or begins a new piece at a character of `p`. -/
def splitStep (p : Char → Bool) (c : Char) : List (List Char) → List (List Char)
  | [] => if p c then [[], []] else [[c]]
  | piece :: pieces => if p c then [] :: piece :: pieces else (c :: piece) :: pieces

/-- The pieces of a text between the characters `c`. -/
def splitAt (c : Char) : List Char → List (List Char)
  | [] => [[]]
  | d :: ds =>
    if d = c then [] :: splitAt c ds
    else match splitAt c ds with
      | piece :: pieces => (d :: piece) :: pieces
      | [] => [[d]]

/-- The maximal runs of characters outside `p`. -/
def wordsBy (p : Char → Bool) (cs : List Char) : List (List Char) :=
  (cs.foldr (splitStep p) []).filter (!·.isEmpty)

/-- The words of a text, separated by blanks. -/
def words (s : String) : List String := (wordsBy isBlank s.toList).map String.ofList

/-- The text with each run of blanks replaced by one space and none at the ends. -/
def collapse (s : String) : String := " ".intercalate (words s)

end MarkdownTree.Text
