import MarkdownTree.Markup.Basic
import MarkdownTree.Validation.Scalar

/-!
# Reading markup

An element is read from an object with a tag, and with props and children if it has any. Members
of other names are ignored. A child is an element or a text; if it is neither, the reasons of both
are reported.
-/

namespace MarkdownTree.Markup

/-- A tag: a text, or a value that stands for a component. -/
def readTag (componentName? : Value → Option String) (v : Value) : Check Tag :=
  match v, componentName? v with
  | .string s, _ => .accept (.name s)
  | _, some name => .accept (.component name)
  | _, none => .refuse [⟨["str"], .notText⟩, ⟨["callable"], .notFunction⟩]

/-- The element with the given fields, whose children are checked already. -/
def assemble (componentName? : Value → Option String) (fields : Fields)
    (children : Check (List Markup)) : Check Markup :=
  Markup.element <$> Check.required fields "tag" (readTag componentName?)
    <*> Check.defaulting fields "props" [] Check.mapping
    <*> children

/-- The check of a child that is no text, given its check as an element. -/
def orText (asElement : Check Markup) : Check Markup :=
  match asElement.within "Element" with
  | .accept m => .accept m
  | .refuse rs => .refuse (rs ++ [⟨["str"], .notText⟩])

mutual

/-- Reads an element. -/
def ofValue (componentName? : Value → Option String) : Value → Check Markup
  | .object fields => assemble componentName? fields (readChildren componentName? fields)
  | _ => .fail .notRecord

/-- Reads the member `children` of an object. -/
def readChildren (componentName? : Value → Option String) :
    List (String × Value) → Check (List Markup)
  | [] => .accept []
  | (name, v) :: fields =>
    if name = "children" then (readChildList componentName? v).within "children"
    else readChildren componentName? fields

/-- Reads a list of children. -/
def readChildList (componentName? : Value → Option String) : Value → Check (List Markup)
  | .list vs => readItems componentName? 0 vs
  | _ => .fail .notList

/-- Reads children, the first of which stands at position `i`. -/
def readItems (componentName? : Value → Option String) : Nat → List Value → Check (List Markup)
  | _, [] => .accept []
  | i, v :: vs =>
    Check.seq (((readChild componentName? v).within (toString i)).map List.cons) fun _ =>
      readItems componentName? (i + 1) vs

/-- Reads a child. -/
def readChild (componentName? : Value → Option String) : Value → Check Markup
  | .string s => .accept (.text s)
  | v => orText (ofValue componentName? v)

end

end MarkdownTree.Markup
