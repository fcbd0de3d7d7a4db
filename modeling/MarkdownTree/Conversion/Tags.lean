import MarkdownTree.Override

/-!
# Tags of nodes

Every kind of node has a tag; a kind that is not known is its own tag. Texts are not elements,
and some nodes are not rendered at all.
-/

namespace MarkdownTree

/-- The tags of the known kinds. -/
def defaultTags : List (String × String) :=
  [("blockquote", "blockquote"), ("break", "br"), ("code", "pre"), ("delete", "del"),
    ("emphasis", "em"), ("footnoteReference", "a"), ("horizontalRule", "hr"), ("html", "div"),
    ("image", "img"), ("imageReference", "img"), ("inlineCode", "code"), ("link", "a"),
    ("linkReference", "a"), ("listItem", "li"), ("paragraph", "p"), ("root", "div"),
    ("strong", "strong"), ("table", "table"), ("tableBody", "tbody"), ("tableCell", "td"),
    ("tableFooter", "tfoot"), ("tableHeader", "thead"), ("tableHeaderCell", "th"),
    ("tableRow", "tr"), ("thematicBreak", "hr")]

namespace Node

/-- A node that is rendered as its text. -/
def isText (n : Node) : Bool := n.kind = "text" || n.kind = "textNode"

/-- A node that is not rendered: definitions, footnotes and front matter. -/
def isUnrendered (n : Node) : Bool :=
  n.kind = "definition" || n.kind = "footnoteDefinition" || n.kind = "yaml"

/-- The level of a heading; without one, and with level zero, it is one. -/
def headingLevel (n : Node) : Int :=
  match n.depth with
  | none => 1
  | some d => if d = 0 then 1 else d

/-- The tag of a node without an override. -/
def defaultTag (n : Node) : String :=
  if n.kind = "heading" then s!"h{n.headingLevel}"
  else if n.kind = "list" then if n.ordered = some true then "ol" else "ul"
  else (Entries.get? defaultTags n.kind).getD n.kind

/-- The tag of a node, or none if it is not rendered. -/
def tag? (n : Node) (overrides : Overrides) : Option Tag :=
  if n.isUnrendered then none
  else some (((Entries.get? overrides n.kind).bind Override.tag?).getD (.name n.defaultTag))

theorem tag?_eq_none {n : Node} {overrides : Overrides} :
    n.tag? overrides = none ↔ n.isUnrendered = true := by
  simp [tag?]

theorem tag?_ne_none {n : Node} {overrides : Overrides} (h : n.isUnrendered = false) :
    n.tag? overrides ≠ none := by
  simp [tag?_eq_none, h]

end Node

end MarkdownTree
