import MarkdownTree.Binary64.Basic
import MarkdownTree.Binary64.Shortest
import MarkdownTree.Cli.Arguments
import MarkdownTree.Cli.Run
import MarkdownTree.Config
import MarkdownTree.Conversion.Basic
import MarkdownTree.Conversion.Progress
import MarkdownTree.Conversion.Props
import MarkdownTree.Conversion.Session
import MarkdownTree.Conversion.Tables
import MarkdownTree.Conversion.Tags
import MarkdownTree.Conversion.Weight
import MarkdownTree.Date
import MarkdownTree.Entries
import MarkdownTree.Files.Document
import MarkdownTree.Files.Path
import MarkdownTree.Files.Tree
import MarkdownTree.FrontMatter
import MarkdownTree.Json.Parser
import MarkdownTree.Json.Printer
import MarkdownTree.Main
import MarkdownTree.Markdown.Address
import MarkdownTree.Markdown.Block
import MarkdownTree.Markdown.CharacterReference
import MarkdownTree.Markdown.Container
import MarkdownTree.Markdown.Definition
import MarkdownTree.Markdown.Delimiter
import MarkdownTree.Markdown.Frame
import MarkdownTree.Markdown.HtmlTag
import MarkdownTree.Markdown.Inline
import MarkdownTree.Markdown.Lines
import MarkdownTree.Markdown.Link
import MarkdownTree.Markdown.Opening
import MarkdownTree.Markdown.Options
import MarkdownTree.Markdown.Reader
import MarkdownTree.Markdown.Stretch
import MarkdownTree.Markdown.Target
import MarkdownTree.Markup.Basic
import MarkdownTree.Markup.Dump
import MarkdownTree.Markup.Html
import MarkdownTree.Markup.Reading
import MarkdownTree.Node.Basic
import MarkdownTree.Node.Dump
import MarkdownTree.Node.Reading
import MarkdownTree.Override
import MarkdownTree.References
import MarkdownTree.Rendering
import MarkdownTree.Settings
import MarkdownTree.Stack
import MarkdownTree.Syntax.Document
import MarkdownTree.Syntax.Token
import MarkdownTree.Syntax.Tree
import MarkdownTree.Text.Base64
import MarkdownTree.Text.CharSet
import MarkdownTree.Text.DecimalDigit
import MarkdownTree.Text.HtmlEscape
import MarkdownTree.Text.Integer
import MarkdownTree.Text.LabelFolding
import MarkdownTree.Text.LineEnd
import MarkdownTree.Text.Percent
import MarkdownTree.Text.Printable
import MarkdownTree.Text.Punctuation
import MarkdownTree.Text.Quoted
import MarkdownTree.Text.Utf8
import MarkdownTree.Text.Whitespace
import MarkdownTree.Text.Word
import MarkdownTree.Validation.Basic
import MarkdownTree.Validation.Scalar
import MarkdownTree.Value.Basic
import MarkdownTree.Value.Text
import MarkdownTree.Walk
import MarkdownTree.Yaml.Cursor
import MarkdownTree.Yaml.Data
import MarkdownTree.Yaml.Fault
import MarkdownTree.Yaml.Resolution
import MarkdownTree.Yaml.ScalarText
import MarkdownTree.Yaml.Token
import MarkdownTree.Yaml.Tree
import MarkdownTree.Proofs.Conversion.Steps
import MarkdownTree.Proofs.Conversion.Comparison
import MarkdownTree.Proofs.Conversion.Strictness
import MarkdownTree.Proofs.Entries
import MarkdownTree.Proofs.References
import MarkdownTree.Proofs.Node.VisibleText
import MarkdownTree.Proofs.Conversion.VisibleText
import MarkdownTree.Proofs.Conversion.Elements
import MarkdownTree.Proofs.Conversion.Failures
import MarkdownTree.Proofs.Conversion.TableStructure
import MarkdownTree.Proofs.Conversion.Session
import MarkdownTree.Proofs.Node.Depth
import MarkdownTree.Proofs.Conversion.DepthLimit
import MarkdownTree.Proofs.Html.Decoder
import MarkdownTree.Proofs.Html.RoundTrip
import MarkdownTree.Proofs.Node.Kinds
import MarkdownTree.Proofs.Conversion.FootnoteLinks
import MarkdownTree.Proofs.Syntax.Parts
import MarkdownTree.Proofs.Syntax.Build
import MarkdownTree.Proofs.Syntax.Footnotes
import MarkdownTree.Proofs.Footnotes
import MarkdownTree.Proofs.Node.Masking
import MarkdownTree.Proofs.Conversion.Masking
import MarkdownTree.Proofs.Node.Definitions
import MarkdownTree.Proofs.Definitions
import MarkdownTree.Proofs.Conversion.Outline
import MarkdownTree.Proofs.Conversion.Overrides
import MarkdownTree.Proofs.Conversion.Keys
import MarkdownTree.Proofs.Syntax.Forms
import MarkdownTree.Proofs.Syntax.Content
import MarkdownTree.Proofs.Value.Spelled
import MarkdownTree.Proofs.Json.RoundTrip
import MarkdownTree.Proofs.Json.Layout
import MarkdownTree.Proofs.Markup.Export
import MarkdownTree.Proofs.Decoration
import MarkdownTree.Proofs.Node.Reading
import MarkdownTree.Proofs.Interchange
import MarkdownTree.Proofs.Files.Places
import MarkdownTree.Proofs.Files.Reading
import MarkdownTree.Proofs.Files.Searching
import MarkdownTree.Proofs.Files.Writing
import MarkdownTree.Proofs.Files.Invariant
import MarkdownTree.Proofs.Cli.Steps
import MarkdownTree.Proofs.Cli.Loading
import MarkdownTree.Proofs.Cli.Rendering
import MarkdownTree.Proofs.Cli.Targets
import MarkdownTree.Proofs.Cli.Endings
import MarkdownTree.Proofs.Syntax.Joining
import MarkdownTree.Proofs.Syntax.Tables
import MarkdownTree.Proofs.Syntax.TextRuns
import MarkdownTree.Proofs.Conversion.Results
import MarkdownTree.Proofs.Conversion.Exhaustion
import MarkdownTree.Proofs.Node.Pruning
import MarkdownTree.Proofs.Conversion.Quotes
import MarkdownTree.Proofs.Conversion.Pruning
import MarkdownTree.Proofs.Conversion.Nesting
import MarkdownTree.Proofs.Places
import MarkdownTree.Proofs.Syntax.Alignment
import MarkdownTree.Proofs.Syntax.Tasks
import MarkdownTree.Proofs.Tables
import MarkdownTree.Proofs.Tasks
import MarkdownTree.Proofs.Html.Attributes
import MarkdownTree.Proofs.Node.Regrouping
import MarkdownTree.Proofs.Conversion.SharedLoop
import MarkdownTree.Proofs.Files.Discovery
import MarkdownTree.Proofs.Settings
import MarkdownTree.Proofs.Yaml.Mapping
import MarkdownTree.Proofs.Config
import MarkdownTree.Proofs.Walk
