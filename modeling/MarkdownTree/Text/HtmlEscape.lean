/-!
# Escaping in HTML

In text the ampersand and the angle brackets are written as references, in an attribute value
both quotes too.
-/

namespace MarkdownTree.Text

/-- One character of text. -/
def escapeTextChar (c : Char) : List Char :=
  if c = '&' then ['&', 'a', 'm', 'p', ';']
  else if c = '<' then ['&', 'l', 't', ';']
  else if c = '>' then ['&', 'g', 't', ';']
  else [c]

/-- One character of an attribute value. -/
def escapeAttributeChar (c : Char) : List Char :=
  if c = '"' then ['&', 'q', 'u', 'o', 't', ';']
  else if c = '\x27' then ['&', '#', 'x', '2', '7', ';']
  else escapeTextChar c

/-- The characters of an escaped text. -/
def escapeText (s : String) : List Char := s.toList.flatMap escapeTextChar

/-- The characters of an escaped attribute value. -/
def escapeAttribute (s : String) : List Char := s.toList.flatMap escapeAttributeChar

end MarkdownTree.Text
