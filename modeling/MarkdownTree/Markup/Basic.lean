import MarkdownTree.Value.Basic

/-!
# Markup

The output tree: texts and elements. The tag of an element is a name or the name of a component,
a function that makes markup of the props and children it is given.

`Markup.texts` lists the texts of a tree in order, and `Markup.height` says how deep its elements
nest.
-/

namespace MarkdownTree

/-- The tag of an element. -/
inductive Tag where
  | name (s : String)
  | component (name : String)
  deriving DecidableEq, Inhabited

/-- The name of a tag or of the component that stands for it. -/
def Tag.label : Tag → String
  | .name s => s
  | .component s => s

/-- A text or an element. -/
inductive Markup where
  | text (s : String)
  | element (tag : Tag) (props : Fields) (children : List Markup)
  deriving Inhabited

namespace Markup

mutual

/-- The texts of a tree from left to right. -/
def texts : Markup → List String
  | .text s => [s]
  | .element _ _ children => textsOfAll children

/-- The texts of several trees from left to right. -/
def textsOfAll : List Markup → List String
  | [] => []
  | m :: ms => texts m ++ textsOfAll ms

end

mutual

/-- How deep elements nest: none in a text, one in an element without elements in it. -/
def height : Markup → Nat
  | .text _ => 0
  | .element _ _ children => 1 + heightOfAll children

/-- The greatest height of several trees. -/
def heightOfAll : List Markup → Nat
  | [] => 0
  | m :: ms => max (height m) (heightOfAll ms)

end

end Markup

end MarkdownTree
