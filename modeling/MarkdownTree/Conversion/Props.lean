import MarkdownTree.Conversion.Progress
import MarkdownTree.Conversion.Tables
import MarkdownTree.Conversion.Tags

/-!
# Props of nodes

The props of an element come from four sources, each of which replaces what the ones before it
have set: the key, the props computed from the kind of node, the props of the override, and the
props that the override computes.
-/

namespace MarkdownTree.Conversion

/-- What a reference points at. Without a definition it is a failure or a warning, as the
settings say. -/
def resolve (c : Context) (n : Node) : Conversion Definition :=
  match Entries.get? c.definitions n.identifier with
  | some d => pure d
  | none =>
    if c.settings.strictReferences then throw (.unresolved n.kind n.identifier)
    else do
      warn ⟨n.kind, n.identifier⟩
      return {}

/-- The props that a node has because of its kind. -/
def computedProps (c : Context) (n : Node) : Conversion Fields :=
  if n.kind = "footnoteReference" then
    pure [("href", .string ("#" ++ n.identifier.getD "None"))]
  else if n.kind = "image" then
    pure [("title", .ofString? n.title), ("alt", .ofString? n.alt), ("src", .ofString? n.src)]
  else if n.kind = "imageReference" then do
    let d ← resolve c n
    return [("title", .ofString? d.title), ("alt", .ofString? n.alt), ("src", .ofString? d.link)]
  else if n.kind = "link" then
    pure [("title", .ofString? n.title), ("href", .ofString? n.href)]
  else if n.kind = "linkReference" then do
    let d ← resolve c n
    return [("title", .ofString? d.title), ("href", .ofString? d.link)]
  else if n.kind = "list" then
    pure [("start", .ofInt? n.start)]
  else if n.isCell then
    pure [("align", (n.align.map Alignment.toValue).getD .null)]
  else pure []

/-- The props that an override computes. -/
def dynamicProps (o : Override) (n : Node) : Conversion Fields :=
  match o.dynamicProps with
  | none => return []
  | some f =>
    match f n with
    | .ok fields => return fields
    | .error message => throw (.props message)

/-- The props of a node with the given key. -/
def propsOf (c : Context) (n : Node) (key : String) : Conversion Fields := do
  let computed ← computedProps c n
  let props := Entries.merge [("key", .string key)] computed
  match Entries.get? c.overrides n.kind with
  | none => return props
  | some o =>
    let dynamic ← dynamicProps o n
    return Entries.merge (Entries.merge props o.props) dynamic

end MarkdownTree.Conversion
