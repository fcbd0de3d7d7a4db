import MarkdownTree.Markdown.CharacterReference
import MarkdownTree.Text.LabelFolding

/-!
# HTML in Markdown

A tag, a comment, a processing instruction, a declaration or a section of character data can stand
in a text, and seven kinds of HTML begin a block. Readers return what is left after the construct.
-/

namespace MarkdownTree.Markdown

/-- What can be left after a run of characters of `p`, the longest run first. -/
def afterRun (p : Char → Bool) : List Char → List (List Char)
  | [] => [[]]
  | c :: cs => if p c then afterRun p cs ++ [c :: cs] else [c :: cs]

/-- What is left after the first `mark`. -/
def afterFirst? (mark : List Char) : List Char → Option (List Char)
  | [] => none
  | c :: cs =>
    if mark.isPrefixOf (c :: cs) then some ((c :: cs).drop mark.length) else afterFirst? mark cs

/-- The characters of the name of a tag after its first. -/
def isTagNameChar (c : Char) : Bool := isAlphanumeric c || c = '-'

/-- The characters that can begin the name of an attribute. -/
def beginsAttribute (c : Char) : Bool := isLetter c || c = '_' || c = ':'

/-- The characters of the name of an attribute after its first. -/
def isAttributeChar (c : Char) : Bool := isAlphanumeric c || c = ':' || c = '.' || c = '_' || c = '-'

/-- The characters of a value without quotes. -/
def isUnquotedChar (c : Char) : Bool :=
  0x20 < c.toNat && !"\"\x27=<>\x60".toList.contains c

/-- What can be left after the value of an attribute. -/
def afterValue (cs : List Char) : List (List Char) :=
  match cs with
  | [] => []
  | c :: rest =>
    if c = '"' ∨ c = '\x27' then (afterFirst? [c] rest).toList
    else (afterRun isUnquotedChar cs).dropLast

/-- What can be left after an attribute: blanks, a name and perhaps a value. -/
def afterAttribute (cs : List Char) : List (List Char) :=
  let named := cs.dropWhile Text.isBlank
  match named with
  | c :: rest =>
    if named.length < cs.length ∧ beginsAttribute c then
      let rest := rest.dropWhile isAttributeChar
      match rest.dropWhile Text.isBlank with
      | '=' :: value => (afterRun Text.isBlank value).flatMap afterValue
      | _ => [rest]
    else []
  | [] => []

/-- What is left after the end of an opening tag. -/
def afterTagEnd? (cs : List Char) : Option (List Char) :=
  match cs.dropWhile Text.isBlank with
  | '/' :: '>' :: rest => some rest
  | '>' :: rest => some rest
  | _ => none

/-- What is left after at most `n` attributes and the end of an opening tag. -/
def afterAttributes? : Nat → List Char → Option (List Char)
  | 0, cs => afterTagEnd? cs
  | n + 1, cs => ((afterAttribute cs).findSome? (afterAttributes? n)).or (afterTagEnd? cs)

/-- What is left after an opening or a closing tag. -/
def afterTag? (cs : List Char) : Option (List Char) :=
  match cs with
  | '<' :: '/' :: c :: rest =>
    if isLetter c then
      match (rest.dropWhile isTagNameChar).dropWhile Text.isBlank with
      | '>' :: rest => some rest
      | _ => none
    else none
  | '<' :: c :: rest =>
    if isLetter c then afterAttributes? rest.length (rest.dropWhile isTagNameChar) else none
  | _ => none

/-- What is left after the text of a comment and its end. A hyphen is read together with the
character after it, two hyphens with the one after both. -/
def afterComment? : List Char → Option (List Char)
  | '-' :: '-' :: '>' :: rest => some rest
  | '-' :: '-' :: _ :: rest => afterComment? rest
  | ['-', '-'] => none
  | '-' :: _ :: rest => afterComment? rest
  | ['-'] => none
  | _ :: rest => afterComment? rest
  | [] => none

/-- What is left after a piece of HTML in a text. -/
def afterHtml? (cs : List Char) : Option (List Char) :=
  match cs with
  | '<' :: '!' :: '-' :: '-' :: '>' :: rest => some rest
  | '<' :: '!' :: '-' :: '-' :: '-' :: '>' :: rest => some rest
  | '<' :: '!' :: '-' :: '-' :: rest => afterComment? rest
  | '<' :: '?' :: rest => afterFirst? ['?', '>'] rest
  | '<' :: '!' :: c :: rest =>
    if isLetter c then afterFirst? ['>'] rest
    else if "[CDATA[".toList.isPrefixOf (c :: rest) then
      afterFirst? [']', ']', '>'] (rest.drop 6)
    else none
  | _ => afterTag? cs

/-- The kinds of HTML that begin a block. -/
inductive HtmlBlock where
  /-- An element whose text is not Markdown, a script for example. -/
  | verbatim
  | comment
  | processing
  | declaration
  | characterData
  /-- The tag of an element that stands on lines of its own. -/
  | element
  /-- Any other tag that stands alone on its line. -/
  | tag
  deriving DecidableEq

namespace HtmlBlock

/-- The elements whose text is not Markdown. -/
def verbatimNames : List (List Char) := ["script", "pre", "style", "textarea"].map String.toList

/-- The elements that stand on lines of their own. -/
def elementNames : List (List Char) :=
  (Text.words "address article aside base basefont blockquote body caption center col colgroup dd
    details dialog dir div dl dt fieldset figcaption figure footer form frame frameset h1 h2 h3 h4
    h5 h6 head header hr html iframe legend li link main menu menuitem nav noframes ol optgroup
    option p param search section summary table tbody td tfoot th thead title tr track ul").map
    String.toList

/-- Whether a line goes on after the name of an element as it can in a tag. -/
def endsName (closing : Bool) (cs : List Char) : Bool :=
  match cs with
  | [] => true
  | '/' :: '>' :: _ => closing
  | c :: _ => c = '>' || Text.isBlank c

/-- Whether a line begins with one of the names and the name ends there. -/
def beginsWithName (names : List (List Char)) (closing : Bool) (cs : List Char) : Bool :=
  names.any fun name =>
    name.isPrefixOf (cs.map Text.foldLetter) && endsName closing (cs.drop name.length)

/-- The kind of HTML that a line begins. -/
def ofLine? (cs : List Char) : Option HtmlBlock :=
  match cs with
  | '<' :: rest =>
    let name := if rest.head? = some '/' then rest.drop 1 else rest
    if beginsWithName verbatimNames false rest then some verbatim
    else if "!--".toList.isPrefixOf rest then some comment
    else if rest.head? = some '?' then some processing
    else if rest.head? = some '!' ∧ (rest.drop 1).head?.any (fun c => 'A' ≤ c && c ≤ 'Z') then
      some declaration
    else if "![CDATA[".toList.isPrefixOf rest then some characterData
    else if beginsWithName elementNames true name then some element
    else if (afterTag? cs).any (·.all Text.isBlank) then some tag
    else none
  | _ => none

/-- Whether a line holds `mark`. -/
def holds (mark line : List Char) : Bool := (afterFirst? mark line).isSome

/-- Whether a block ends with this line. -/
def endsWith (kind : HtmlBlock) (line : List Char) : Bool :=
  match kind with
  | verbatim =>
    let line := line.map Text.foldLetter
    verbatimNames.any fun name => holds ('<' :: '/' :: name ++ ['>']) line
  | comment => holds ['-', '-', '>'] line
  | processing => holds ['?', '>'] line
  | declaration => holds ['>'] line
  | characterData => holds [']', ']', '>'] line
  | element => line.isEmpty
  | tag => line.isEmpty

/-- Whether a block can follow a paragraph without an empty line between them. -/
def interrupts (kind : HtmlBlock) : Bool := kind ≠ tag

end HtmlBlock

end MarkdownTree.Markdown
