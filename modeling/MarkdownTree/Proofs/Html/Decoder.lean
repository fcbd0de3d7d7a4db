/-!
# Decoding HTML

A decoder for the HTML that markup is written in: texts, elements with an end tag, elements that
are empty by their name, attributes that stand bare or have a quoted value, and five character
references. It reads one character at a time and keeps the start tags that wait for their end
tags, so reading one text after another is reading both together (`run_append`).

Nothing here knows how markup is written. A character that has no place where it stands, such as
an angle bracket in a value, makes decoding fail.
-/

namespace MarkdownTree

/-- A text, or an element whose attributes have a value or stand bare. -/
inductive Html where
  | text (s : String)
  | element (tag : String) (attributes : List (String × Option String)) (children : List Html)
  deriving Repr, Inhabited

namespace Html

/-- Elements that end with their start tag. -/
def emptyElements : List String := ["br", "hr", "img", "input"]

/-- The characters of the names of tags and attributes. -/
def isNameChar (c : Char) : Bool :=
  c ∉ [' ', '\t', '\n', '\x0c', '\r', '<', '>', '/', '=', '"', '\x27']

/-- What a character reference stands for, without its ampersand and its semicolon. -/
def referenced : List Char → Option Char
  | ['a', 'm', 'p'] => some '&'
  | ['l', 't'] => some '<'
  | ['g', 't'] => some '>'
  | ['q', 'u', 'o', 't'] => some '"'
  | ['#', 'x', '2', '7'] => some '\x27'
  | _ => none

/-- The children of an element as far as they are read: the last one first, and a text that may
go on. -/
structure Siblings where
  before : List Html := []
  pending : String := ""

/-- A text as a child, none if it is empty. -/
def ofText (s : String) : List Html := if s = "" then [] else [.text s]

@[simp] theorem ofText_empty : ofText "" = [] := rfl

@[simp] theorem reverse_ofText (s : String) : (ofText s).reverse = ofText s := by
  unfold ofText
  split <;> rfl

namespace Siblings

/-- One more child; a text goes on with the text before it. -/
def add (ns : Siblings) : Html → Siblings
  | .text s => { ns with pending := ns.pending ++ s }
  | e => ⟨e :: (ofText ns.pending ++ ns.before), ""⟩

/-- One more character of text. -/
def push (ns : Siblings) (c : Char) : Siblings := ns.add (.text (String.singleton c))

/-- All children in order. -/
def toList (ns : Siblings) : List Html := (ofText ns.pending ++ ns.before).reverse

end Siblings

/-- A start tag as far as it is read. -/
structure StartTag where
  name : String
  attributes : List (String × Option String) := []

/-- The tag with one more attribute. -/
def StartTag.add (t : StartTag) (name : String) (value : Option String) : StartTag :=
  { t with attributes := t.attributes ++ [(name, value)] }

/-- Where the next character stands. -/
inductive Place where
  | content
  | contentReference (name : List Char)
  | tagOpen
  | endName (name : List Char)
  | startName (name : List Char)
  | blank (tag : StartTag)
  | attributeName (tag : StartTag) (name : List Char)
  | equals (tag : StartTag) (name : List Char)
  | value (tag : StartTag) (name v : List Char)
  | valueReference (tag : StartTag) (name v reference : List Char)
  | valueEnd (tag : StartTag)

/-- The start tag that ends here if an angle bracket comes next. -/
def Place.startTag? : Place → Option StartTag
  | .startName name => some { name := String.ofList name }
  | .attributeName tag name => some (tag.add (String.ofList name) none)
  | .valueEnd tag => some tag
  | _ => none

/-- What is read: the children of the innermost open element, and the open elements from the
inside out, each with the children that stand before it. -/
structure Reader where
  siblings : Siblings := {}
  parents : List (StartTag × Siblings) := []
  place : Place := .content

namespace Reader

/-- Begins an element, or adds one that is empty by its name. -/
def openElement (r : Reader) (t : StartTag) : Reader :=
  if t.name ∈ emptyElements then
    { r with siblings := r.siblings.add (.element t.name t.attributes []), place := .content }
  else
    { parents := (t, r.siblings) :: r.parents }

/-- Ends the innermost element, which has to be of the given name. -/
def closeElement (r : Reader) (name : String) : Option Reader :=
  match r.parents with
  | [] => none
  | (t, before) :: parents =>
    if t.name = name then
      some { siblings := before.add (.element t.name t.attributes r.siblings.toList), parents }
    else none

/-- Reads what follows the name of a tag or an attribute. -/
def stepTag (r : Reader) (t : StartTag) (c : Char) : Option Reader :=
  if c = ' ' then some { r with place := .blank t }
  else if c = '>' then some (r.openElement t)
  else none

/-- Reads one character. -/
def step (r : Reader) (c : Char) : Option Reader :=
  match r.place with
  | .content =>
    if c = '<' then some { r with place := .tagOpen }
    else if c = '>' then none
    else if c = '&' then some { r with place := .contentReference [] }
    else some { r with siblings := r.siblings.push c }
  | .contentReference name =>
    if c = ';' then
      (referenced name).map fun d => { r with siblings := r.siblings.push d, place := .content }
    else some { r with place := .contentReference (name ++ [c]) }
  | .tagOpen =>
    if c = '/' then some { r with place := .endName [] }
    else if isNameChar c then some { r with place := .startName [c] }
    else none
  | .endName name =>
    if isNameChar c then some { r with place := .endName (name ++ [c]) }
    else if c = '>' then r.closeElement (String.ofList name)
    else none
  | .startName name =>
    if isNameChar c then some { r with place := .startName (name ++ [c]) }
    else r.stepTag { name := String.ofList name } c
  | .blank t => if isNameChar c then some { r with place := .attributeName t [c] } else none
  | .attributeName t name =>
    if isNameChar c then some { r with place := .attributeName t (name ++ [c]) }
    else if c = '=' then some { r with place := .equals t name }
    else r.stepTag (t.add (String.ofList name) none) c
  | .equals t name => if c = '"' then some { r with place := .value t name [] } else none
  | .value t name v =>
    if c = '"' then
      some { r with place := .valueEnd (t.add (String.ofList name) (some (String.ofList v))) }
    else if c ∈ ['<', '>', '\x27'] then none
    else if c = '&' then some { r with place := .valueReference t name v [] }
    else some { r with place := .value t name (v ++ [c]) }
  | .valueReference t name v reference =>
    if c = ';' then
      (referenced reference).map fun d => { r with place := .value t name (v ++ [d]) }
    else some { r with place := .valueReference t name v (reference ++ [c]) }
  | .valueEnd t => r.stepTag t c

/-- Reads several characters. -/
def run (r : Reader) (cs : List Char) : Option Reader := cs.foldlM step r

/-- The trees that were read, if no element is left open and no tag unfinished. -/
def result (r : Reader) : Option (List Html) :=
  match r.place, r.parents with
  | .content, [] => some r.siblings.toList
  | _, _ => none

end Reader

/-- The trees that a text stands for. -/
def decode (s : String) : Option (List Html) := (Reader.run {} s.toList).bind Reader.result

namespace Reader

@[simp] theorem run_nil (r : Reader) : run r [] = some r := rfl

@[simp] theorem run_cons (r : Reader) (c : Char) (cs : List Char) :
    run r (c :: cs) = (r.step c).bind (run · cs) := rfl

theorem run_append (r : Reader) (as bs : List Char) :
    run r (as ++ bs) = (run r as).bind (run · bs) := List.foldlM_append

/-- Reading on from where a first text leads. -/
theorem run_append_of {r r' : Reader} {as : List Char} (h : run r as = some r') (bs : List Char) :
    run r (as ++ bs) = run r' bs := by
  rw [run_append, h, Option.bind_some]

/-- Reading on from where a first character leads. -/
theorem run_cons_of {r r' : Reader} {c : Char} (h : r.step c = some r') (cs : List Char) :
    run r (c :: cs) = run r' cs := by
  rw [run_cons, h, Option.bind_some]

end Reader

end Html

end MarkdownTree
