import MarkdownTree.Markup.Basic
import MarkdownTree.Stack
import MarkdownTree.Text.HtmlEscape
import MarkdownTree.Value.Text

/-!
# Markup as HTML

Texts are escaped and elements are written as a start tag, their content and an end tag. A prop
is written as an attribute unless it is null or false; true is written as a bare name. The prop
`align` becomes a style, the prop `key` is not written, and the prop `innerHTML` takes the place
of the content and is written as it is.

Components are replaced by the markup they make before anything is written. What makes it and
writes it calls itself for every level, so a tree can be too deep to be written (`fitsHtml`).
-/

namespace MarkdownTree.Markup

/-- The markup that a component makes of props and children. -/
abbrev Component := Fields → List Markup → Option Markup

/-- Elements that have no content and no end tag. -/
def voidTags : List String := ["br", "hr", "img", "input"]

/-- Props that are not attributes. -/
def reservedProps : List String := ["key", "innerHTML"]

/-- The attribute of a prop. -/
def propAttribute (name : String) (v : Value) : List Char :=
  if name ∈ reservedProps then []
  else match v with
    | .null => []
    | .bool false => []
    | _ =>
      if name = "align" then
        ' ' :: "style=\"".toList ++ Text.escapeAttribute ("text-align:" ++ v.text) ++ ['"']
      else match v with
        | .bool true => ' ' :: name.toList
        | _ => ' ' :: name.toList ++ '=' :: '"' :: Text.escapeAttribute v.text ++ ['"']

/-- The attributes of an element. -/
def attributes (props : Fields) : List Char := props.flatMap fun p => propAttribute p.1 p.2

mutual

/-- The HTML text of a tree whose tags are names; an element made by a component is nothing. -/
def html : Markup → List Char
  | .text s => Text.escapeText s
  | .element (.component _) _ _ => []
  | .element (.name tag) props children =>
    if tag ∈ voidTags then '<' :: tag.toList ++ attributes props ++ ['>']
    else
      let content := match Entries.get? props "innerHTML" with
        | none => htmlOfAll children
        | some .null => htmlOfAll children
        | some v => v.text.toList
      '<' :: tag.toList ++ attributes props ++ '>' :: content ++ '<' :: '/' :: tag.toList ++ ['>']

/-- The HTML text of several trees. -/
def htmlOfAll : List Markup → List Char
  | [] => []
  | m :: ms => html m ++ htmlOfAll ms

end

mutual

/-- The tree with every component replaced by what it makes. A component whose result is made by
components again is followed `fuel` times. -/
def expand (component? : String → Option Component) : Nat → Markup → Option Markup
  | _, .text s => some (.text s)
  | fuel, .element (.name tag) props children =>
    some (.element (.name tag) props (expandAll component? fuel children))
  | 0, .element (.component _) _ _ => none
  | fuel + 1, .element (.component name) props children =>
    match component? name with
    | none => none
    | some make =>
      match make props children with
      | none => none
      | some m => expand component? fuel m
termination_by fuel m => (fuel, sizeOf m)

/-- Several trees with every component replaced by what it makes. -/
def expandAll (component? : String → Option Component) : Nat → List Markup → List Markup
  | _, [] => []
  | fuel, m :: ms => (expand component? fuel m).toList ++ expandAll component? fuel ms
termination_by fuel ms => (fuel, sizeOf ms)

end

/-- The HTML text of a tree that may be absent and may hold components. -/
def htmlText (component? : String → Option Component) (m : Option Markup) : String :=
  match m.bind (expand component? 1000) with
  | none => ""
  | some m => String.ofList (html m)

/-- Whether there is room for the calls that write a tree. A text and what a component makes take
one, an element three and one more for every level of a prop. -/
def htmlFits (component? : String → Option Component) : Nat → Markup → Bool
  | 0, _ => false
  | _ + 1, .text _ => true
  | room + 1, .element (.component name) props children =>
    match component? name with
    | none => true
    | some make =>
      match make props children with
      | none => true
      | some m => htmlFits component? room m
  | room + 3, .element (.name tag) props children =>
    (props.all fun p => p.2.nesting ≤ room) &&
      (tag ∈ voidTags || !((Entries.get? props "innerHTML").getD .null).isNull ||
        children.all (htmlFits component? room))
  | _ + 1, .element (.name _) _ _ => false

/-- Whether a tree that may be absent can be written as HTML. -/
def fitsHtml (component? : String → Option Component) (m : Option Markup)
    (stackLimit : Option Nat := usualStackLimit) : Bool :=
  match stackLimit, m with
  | some room, some m => htmlFits component? room m
  | _, _ => true

end MarkdownTree.Markup
