import MarkdownTree.Markdown.Container
import MarkdownTree.Markdown.Link

/-!
# The reader of Markdown

The blocks of a text are read first, then the text in them: a reference can stand before the
definition of its label. What the reader finds becomes a document.
-/

namespace MarkdownTree.Markdown

open Syntax (Token Environment)

/-- Escaped characters and character references are text. -/
def asText (t : Token) : Token := if t.kind = "text_special" then { t with kind := "text" } else t

/-- Reads the text that a token holds. -/
def readTokenText (options : Options) (t : Token) : Reading Token := do
  if t.kind ≠ "inline" then return t
  let tokens ← readText options (t.content.getD "").toList
  return { t with children := joinTextTokens (tokens.map asText) }

/-- Reads a text. -/
def readTokens (options : Options) (text : String) : Reading (List Token) := do
  let blocks ← readBlocks options (normalise text.toList)
  if options.bareLinks then throw .noBareLinks
  blocks.mapM (readTokenText options)

/-- What a reader has gathered, for the document. -/
def Found.environment (found : Found) : Environment where
  references := found.references
  footnotes := found.notes.map fun (number, note) =>
    match note with
    | .inText tokens => (number, some tokens)
    | .labelled _ => (number, none)

/-- Why a text makes no document. -/
inductive DocumentFault where
  | reading (fault : Fault)
  /-- The nodes nest too deep. -/
  | stackExhausted
  | tree (fault : Syntax.Fault)

/-- The text of a fault. -/
def DocumentFault.message : DocumentFault → String
  | .reading fault => fault.message
  | .stackExhausted => "Failed to parse markdown: maximum recursion depth exceeded"
  | .tree fault => fault.message

/-- Whether there is room for the nodes of tokens, which take four calls for every level. -/
def fitsTokens (stackLimit : Option Nat) (tokens : List Token) : Bool :=
  fitsStack stackLimit (4 * Syntax.Tree.heightOfTokens tokens)

/-- The document that a text makes. -/
def document (preset : String) (fields : Fields) (position : Bool) (text : String)
    (stackLimit : Option Nat := usualStackLimit) : Except DocumentFault Node := do
  let options ← (Options.ofFields preset fields).mapError .reading
  let (tokens, found) ← ((readTokens options text).run {}).mapError .reading
  let notes := found.environment.footnotes.filterMap Prod.snd
  if !(tokens :: notes).all (fitsTokens stackLimit) then throw .stackExhausted
  (Syntax.documentOfTokens position tokens found.environment).mapError .tree

end MarkdownTree.Markdown
