import MarkdownTree.Json.Printer
import MarkdownTree.Markup.Basic
import MarkdownTree.Stack

/-!
# Markup as data

A text stands for itself and an element is an object with its tag, its props and its children.
A component is given by its name. No markup is null.
-/

namespace MarkdownTree.Markup

mutual

/-- The value of a tree. -/
def toValue : Markup → Value
  | .text s => .string s
  | .element tag props children =>
    .object [("tag", .string tag.label), ("props", .object props),
      ("children", .list (valuesOfAll children))]

/-- The values of several trees. -/
def valuesOfAll : List Markup → List Value
  | [] => []
  | m :: ms => toValue m :: valuesOfAll ms

end

/-- The value of a tree that may be absent. -/
def dump (m : Option Markup) : Value := (m.map toValue).getD .null

/-- The JSON text of a tree that may be absent. -/
def json (indent : Option Nat) (m : Option Markup) : String :=
  Json.print (Json.Style.ofExport indent) (dump m)

/-- Whether a tree that may be absent can be written as JSON, which takes a call for every list and
object that is open. -/
def fitsJson (m : Option Markup) (stackLimit : Option Nat := usualStackLimit) : Bool :=
  fitsStack stackLimit (dump m).nesting

end MarkdownTree.Markup
