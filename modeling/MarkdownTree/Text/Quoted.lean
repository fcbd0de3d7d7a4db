import MarkdownTree.Text.CharSet
import MarkdownTree.Text.Printable

/-!
# Quoted text

A text is quoted in single quotes, or in double quotes if it holds a single quote and no double
one. The backslash, the chosen quote, line feed, carriage return and tab are escaped by a
backslash, other unprintable characters by their code point in hexadecimal.
-/

namespace MarkdownTree.Text

/-- The quote that a text is put in. -/
def quoteFor (cs : List Char) : Char :=
  if cs.contains '\x27' && !cs.contains '"' then '"' else '\x27'

/-- One character between quotes `quote`. -/
def escapeQuoted (quote c : Char) : List Char :=
  if c = '\\' ∨ c = quote then ['\\', c]
  else if c = '\n' then ['\\', 'n']
  else if c = '\r' then ['\\', 'r']
  else if c = '\t' then ['\\', 't']
  else if isPrintable c then [c]
  else if c.toNat < 0x100 then '\\' :: 'x' :: (hexDigits 2 c.toNat).map Char.toLower
  else if c.toNat < 0x10000 then '\\' :: 'u' :: (hexDigits 4 c.toNat).map Char.toLower
  else '\\' :: 'U' :: (hexDigits 8 c.toNat).map Char.toLower

/-- A text between quotes. -/
def quoted (s : String) : String :=
  let q := quoteFor s.toList
  String.ofList (q :: s.toList.flatMap (escapeQuoted q) ++ [q])

end MarkdownTree.Text
