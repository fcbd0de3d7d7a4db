import MarkdownTree.Markdown.Reader
import MarkdownTree.References

/-!
# Rendering

The references of a document are collected first; then its tree is converted, and an element that
holds the footnotes becomes the last child of the result. A text is read before the overrides for
it are checked.
-/

namespace MarkdownTree.Rendering

/-- The element that holds the footnotes. -/
def footer (settings : Settings) (footnotes : List Markup) : Markup :=
  .element (.name settings.footnotesTag) [("key", .string "footnotes")] footnotes

/-- The markup with the footnotes as its last child; a text takes none. -/
def withFootnotes (settings : Settings) (footnotes : List Markup) : Option Markup → Option Markup
  | some (.element tag props children) =>
    if footnotes.isEmpty then some (.element tag props children)
    else some (.element tag props (children ++ [footer settings footnotes]))
  | m => m

/-- Renders a document. -/
def renderTree (n : Node) (overrides : Overrides) (settings : Settings)
    (stackLimit : Option Nat := usualStackLimit) : Conversion (Option Markup) := do
  let references ← References.collect n overrides settings stackLimit
  let c : Context := { definitions := references.definitions, overrides, settings, stackLimit }
  let root ← Conversion.convertNode c n "0"
  return withFootnotes settings references.footnotes root

/-- Why a text is not rendered. -/
inductive Fault where
  | unreadable (fault : Markdown.DocumentFault)
  /-- The overrides are refused. -/
  | refused (reasons : List Refusal)
  | failed (failure : Failure)

/-- Renders a text; `position` comes before what the settings say. -/
def render (settings : Settings) (position : Option Bool) (options : Fields)
    (overrides : Check Overrides) (text : String) (stackLimit : Option Nat := usualStackLimit) :
    Except Fault (Option Markup) × List Warning :=
  match Markdown.document settings.parserConfig options (position.getD settings.position) text
      stackLimit with
  | .error fault => (.error (.unreadable fault), [])
  | .ok n =>
    match overrides.toExcept with
    | .error reasons => (.error (.refused reasons), [])
    | .ok overrides =>
      let (result, warnings) := Conversion.start (renderTree n overrides settings stackLimit)
      (result.mapError .failed, warnings)

end MarkdownTree.Rendering
