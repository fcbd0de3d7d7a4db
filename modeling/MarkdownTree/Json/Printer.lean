import MarkdownTree.Text.CharSet
import MarkdownTree.Value.Basic

/-!
# Writing JSON

A value is written on one line, with a space after each comma and colon, or with every item and
member on a line of its own, indented by a number of spaces per level. Empty lists and objects
are `[]` and an empty pair of braces in both forms. Dates are written as their ISO texts.

Text is written in front of the characters that follow it, so that what is read back after a
value can be stated for every continuation.
-/

namespace MarkdownTree.Json

/-- How JSON is laid out. -/
structure Style where
  /-- The number of spaces per level, or none for a single line. -/
  indent : Option Nat
  /-- How floating-point numbers are written. -/
  float : Binary64.Layout
  /-- How points in time are written. -/
  timestamp : Timestamp → String

/-- Floating-point numbers have a signed exponent of two digits; the names of the numbers that
are not finite begin with a capital. -/
def floatLayout : Binary64.Layout := ⟨-4, 16, 2, true, "Infinity", "NaN"⟩

/-- The usual style with the given indent. -/
def Style.ofIndent (indent : Option Nat) : Style := ⟨indent, floatLayout, Timestamp.text⟩

/-- The style of an export with the given indent: points in time are written plainly. -/
def Style.ofExport (indent : Option Nat) : Style :=
  { Style.ofIndent indent with timestamp := Timestamp.plainText }

/-- The style of a printed tree: two spaces per level, unsigned exponents, and null for numbers
that are not finite. -/
def Style.tree : Style := ⟨some 2, ⟨-5, 16, 1, false, "null", "null"⟩, Timestamp.text⟩

/-- One character of a text, in front of `rest`. -/
def writeChar (c : Char) (rest : List Char) : List Char :=
  if c = '"' then '\\' :: '"' :: rest
  else if c = '\\' then '\\' :: '\\' :: rest
  else if c = '\n' then '\\' :: 'n' :: rest
  else if c = '\r' then '\\' :: 'r' :: rest
  else if c = '\t' then '\\' :: 't' :: rest
  else if c = '\x08' then '\\' :: 'b' :: rest
  else if c = '\x0c' then '\\' :: 'f' :: rest
  else if c.toNat < 0x20 then
    '\\' :: 'u' :: (Text.hexDigits 4 c.toNat).map Char.toLower ++ rest
  else c :: rest

/-- A text between quotes, in front of `rest`. -/
def writeString (s : String) (rest : List Char) : List Char :=
  '"' :: s.toList.foldr writeChar ('"' :: rest)

/-- The white space before an item at a level, in front of `rest`. -/
def writeBreak (style : Style) (level : Nat) (rest : List Char) : List Char :=
  match style.indent with
  | none => rest
  | some n => '\n' :: List.replicate (n * level) ' ' ++ rest

/-- What separates two items at a level, in front of `rest`. -/
def writeSeparator (style : Style) (level : Nat) (rest : List Char) : List Char :=
  match style.indent with
  | none => ',' :: ' ' :: rest
  | some _ => ',' :: writeBreak style level rest

mutual

/-- A value whose items stand at level `level + 1`, in front of `rest`. -/
def write (style : Style) (level : Nat) : Value → List Char → List Char
  | .null, rest => 'n' :: 'u' :: 'l' :: 'l' :: rest
  | .bool true, rest => 't' :: 'r' :: 'u' :: 'e' :: rest
  | .bool false, rest => 'f' :: 'a' :: 'l' :: 's' :: 'e' :: rest
  | .int n, rest => (toString n).toList ++ rest
  | .float x, rest => (style.float.write x).toList ++ rest
  | .string s, rest => writeString s rest
  | .date d, rest => writeString d.text rest
  | .timestamp t, rest => writeString (style.timestamp t) rest
  | .list [], rest => '[' :: ']' :: rest
  | .list (v :: vs), rest =>
    '[' :: writeBreak style (level + 1)
      (write style (level + 1) v (writeItems style (level + 1) vs (writeBreak style level (']' :: rest))))
  | .object [], rest => '{' :: '}' :: rest
  | .object ((k, v) :: ms), rest =>
    '{' :: writeBreak style (level + 1)
      (writeString k (':' :: ' ' :: write style (level + 1) v
        (writeMembers style (level + 1) ms (writeBreak style level ('}' :: rest)))))

/-- The items after the first one. -/
def writeItems (style : Style) (level : Nat) : List Value → List Char → List Char
  | [], rest => rest
  | v :: vs, rest => writeSeparator style level (write style level v (writeItems style level vs rest))

/-- The members after the first one. -/
def writeMembers (style : Style) (level : Nat) : List (String × Value) → List Char → List Char
  | [], rest => rest
  | (k, v) :: ms, rest =>
    writeSeparator style level
      (writeString k (':' :: ' ' :: write style level v (writeMembers style level ms rest)))

end

/-- The JSON text of a value. -/
def print (style : Style) (v : Value) : String := String.ofList (write style 0 v [])

end MarkdownTree.Json
