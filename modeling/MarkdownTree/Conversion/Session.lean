import MarkdownTree.Conversion.Basic

/-!
# Converters

A converter holds the definitions, overrides and settings of one document. Definitions can be set
between conversions; each conversion starts from the same state.
-/

namespace MarkdownTree

/-- The tables that conversions of one document share, and the progress that the last one left. -/
structure Converter where
  context : Context
  progress : Progress := {}

namespace Converter

/-- The converter of a document. -/
def new (definitions : Entries (Option String) Definition) (overrides : Overrides)
    (settings : Settings) : Converter :=
  { context := { definitions, overrides, settings } }

/-- Sets a definition. -/
def define (converter : Converter) (key : Option String) (d : Definition) : Converter :=
  { converter with
    context := { converter.context with
      definitions := Entries.set converter.context.definitions key d } }

/-- Runs a conversion; its warnings are given beside its outcome. -/
def run (converter : Converter) (m : Conversion α) :
    (Except Failure α × List Warning) × Converter :=
  match StateT.run (ExceptT.run m) { converter.progress with warnings := [] } with
  | (r, p) => ((r, p.warnings), { converter with progress := p })

/-- Converts a node; without a key it has the key of a first child. -/
def convert (converter : Converter) (n : Node) (key : Option String) :
    (Except Failure (Option Markup) × List Warning) × Converter :=
  converter.run (Conversion.convertNode converter.context n (key.getD "0"))

/-- Converts several nodes, each keyed by its position. -/
def convertEach (converter : Converter) (nodes : List Node) :
    (Except Failure (List Markup) × List Warning) × Converter :=
  converter.run (Conversion.convertEach converter.context 0 nodes)

end Converter

end MarkdownTree
