import MarkdownTree.Conversion.Props
import MarkdownTree.Conversion.Weight

/-!
# Converting nodes to markup

`convert` makes markup of a tree of nodes. A text becomes its value; every other node becomes an
element whose children are made of the children of the node, each keyed by its position. Tables,
their headers and footers, and footnote references are rewritten first. A node that is not
rendered makes no markup.

`convert_eq` gives the equation of `convert` without the bookkeeping of its recursion.
-/

namespace MarkdownTree.Conversion

/-- The element of a node with the given tag, if it has one. -/
def element? (tag? : Option Tag) (props : Fields) (children : List Markup) : Option Markup :=
  tag?.map fun tag => .element tag props children

/-- The number of calls between the conversion of a node and that of its children. -/
def callsBetween (n : Node) : Nat :=
  match n.handling with
  | .generic | .code | .html => 2
  | _ => 3

/-- The number of calls that are active at most while a node is rewritten. -/
def callsOfRewriting (n : Node) : Nat :=
  match n.handling with
  | .table => 1 + 2 * (n.childList.map Node.groupingDepth).foldl max 0
  | _ => 1

/-- The content of a node: its value, its only child if that is a text, or all its children. -/
def content (n : Node) (children : Conversion (List Markup)) : Conversion (List Markup) :=
  match n.value, n.childList with
  | some value, _ => pure [.text value]
  | none, [c] => if c.isText then pure (c.value.map Markup.text).toList else children
  | none, _ => children

/-- The element of a node, whose content is made before its props. -/
def generic (c : Context) (frames : Nat) (n : Node) (key : String)
    (children : Conversion (List Markup)) : Conversion (Option Markup) := do
  call c (frames + 1)
  match n.tag? c.overrides with
  | none => return none
  | some tag =>
    let body ← content n children
    let props ← propsOf c n key
    return some (.element tag props body)

/-- A block of code is a text in an inner element that names the language. -/
def code (c : Context) (n : Node) (key : String) : Conversion (Option Markup) := do
  let inner : Fields := match n.lang with
    | none | some "" => []
    | some lang => [("class", .string ("lang-" ++ lang))]
  let props ← propsOf c n key
  return element? (n.tag? c.overrides) props
    [.element (.name "code") inner [.text (n.value.getD "")]]

/-- Raw HTML is the inner text of an element. -/
def rawHtml (c : Context) (n : Node) (key : String) : Conversion (Option Markup) := do
  let props ← propsOf c n key
  return element? (n.tag? c.overrides)
    (Entries.set props "innerHTML" (.string (n.value.getD ""))) []

/-- The box in front of a task. -/
def checkbox (done : Bool) : Markup :=
  .element (.name "input")
    [("key", .string "checkbox"), ("type", .string "checkbox"), ("checked", .bool done),
      ("disabled", .bool true)] []

/-- A task has a box in front of its children; its props are made before its children. -/
def task (c : Context) (n : Node) (key : String) (done : Bool)
    (children : Conversion (List Markup)) : Conversion (Option Markup) := do
  let props ← propsOf c n key
  let body ← children
  return element? (n.tag? c.overrides) props (checkbox done :: body)

/-- The markup of a node that is no text, given the conversion of its children. -/
def render (c : Context) (frames : Nat) (n : Node) (key : String)
    (children : Conversion (List Markup)) : Conversion (Option Markup) := do
  call c (frames + 1)
  match n.handling with
  | .generic => generic c (frames + 1) n key children
  | .code =>
    call c (frames + 2)
    code c n key
  | .html =>
    call c (frames + 2)
    rawHtml c n key
  | .listItem =>
    call c (frames + 2)
    match n.checked with
    | none => generic c (frames + 2) n key children
    | some done => task c n key done children
  | _ =>
    call c (frames + 1 + callsOfRewriting n)
    generic c (frames + 2) n.rewritten key children

/-- The markup of a node, none if it is not rendered, while `frames` calls are active. -/
def convert (c : Context) (frames : Nat) (n : Node) (key : String) : Conversion (Option Markup) := do
  call c frames
  if n.isText then return n.value.map Markup.text
  else
    within c.settings.maxDepth
      (render c frames n key
        (collectEach (fun i d => convert c (frames + callsBetween n) d.1 (toString i)) 0
          n.rewritten.childList.attach))
termination_by n.weight
decreasing_by exact Node.weight_lt_of_mem_rewritten d.2

/-- The markup of several nodes, each keyed by its position. -/
def convertEach (c : Context) (frames : Nat) (nodes : List Node) : Conversion (List Markup) :=
  collectEach (fun i d => convert c frames d (toString i)) 0 nodes

theorem convert_eq (c : Context) (frames : Nat) (n : Node) (key : String) :
    convert c frames n key = (do
      call c frames
      if n.isText then return n.value.map Markup.text
      else
        within c.settings.maxDepth
          (render c frames n key
            (convertEach c (frames + callsBetween n) n.rewritten.childList))) := by
  rw [convert]
  have h := collectEach_attach
    (fun i d => convert c (frames + callsBetween n) d (toString i)) 0 n.rewritten.childList
  rw [convertEach, ← h]

/-- The markup of a node that is converted on its own. -/
def convertNode (c : Context) (n : Node) (key : String) : Conversion (Option Markup) :=
  convert c 0 n key

end MarkdownTree.Conversion
