import MarkdownTree.Conversion.Basic
import MarkdownTree.Walk

/-!
# Definitions and footnotes of a document

Before a document is rendered, its definitions and footnotes are gathered from the whole tree.
A later definition with the same identifier replaces an earlier one and keeps its place. The
bodies of the footnotes are rendered once all definitions are known.
-/

namespace MarkdownTree

/-- What is gathered from a tree. -/
structure Gathered where
  definitions : Entries (Option String) Definition := []
  footnotes : Entries (Option String) Node := []

/-- The definitions and the rendered footnotes of a document. -/
structure References where
  definitions : Entries (Option String) Definition
  footnotes : List Markup

namespace Gathered

/-- The footnote whose only paragraph begins with its identifier; one of another form stays as it
is. -/
def labelled (n : Node) : Node :=
  match n.childList with
  | [p] =>
    if p.kind = "paragraph" then
      let label : Node := { kind := "textNode", value := "[" ++ n.identifier.getD "None" ++ "]: " }
      n.withChildren [p.withChildren (label :: p.childList)]
    else n
  | _ => n

/-- Adds a definition or a footnote to what is gathered. -/
def add (g : Gathered) (n : Node) : Gathered :=
  if n.kind = "definition" then
    { g with definitions := Entries.set g.definitions n.identifier ⟨n.title, n.link⟩ }
  else if n.kind = "footnoteDefinition" then
    { g with footnotes := Entries.set g.footnotes n.identifier (labelled n) }
  else g

/-- Gathers from all nodes of a tree. -/
def ofTree (n : Node) : Gathered := n.walk.foldl add {}

end Gathered

namespace References

/-- What the element of a footnote holds: its value, or else its children. -/
def footnoteBody (c : Context) (n : Node) : Conversion (List Markup) :=
  match n.value with
  | some value => pure [.text value]
  | none => Conversion.convertEach c 0 n.childList

/-- The element of a footnote. -/
def renderFootnote (c : Context) (n : Node) : Conversion Markup := do
  let body ← footnoteBody c n
  let id := Value.ofString? n.identifier
  return .element (.name "div") [("key", id), ("id", id)] body

/-- The elements of several footnotes, one after the other. -/
def renderFootnotes (c : Context) : List Node → Conversion (List Markup)
  | [] => pure []
  | n :: ns => do
    let m ← renderFootnote c n
    let ms ← renderFootnotes c ns
    return m :: ms

/-- Gathers definitions and renders footnotes. -/
def collect (n : Node) (overrides : Overrides) (settings : Settings)
    (stackLimit : Option Nat := usualStackLimit) : Conversion References := do
  let g := Gathered.ofTree n
  let c : Context := { definitions := g.definitions, overrides, settings, stackLimit }
  let rendered ← renderFootnotes c (g.footnotes.map Prod.snd)
  return ⟨g.definitions, rendered⟩

end References

end MarkdownTree
