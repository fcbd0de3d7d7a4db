import MarkdownTree.Validation.Scalar

/-!
# Settings

What a user can set, with the values that hold if nothing is set. A limit of nesting is always
positive.
-/

namespace MarkdownTree

/-- The formats in which a rendered document is written. -/
inductive OutputFormat where
  | json
  | html
  deriving DecidableEq

/-- The name of a format, also used as the suffix of files. -/
def OutputFormat.name : OutputFormat → String
  | .json => "json"
  | .html => "html"

structure Settings where
  appName : String := "mdvdom"
  /-- The preset of the Markdown reader. -/
  parserConfig : String := "gfm-like"
  /-- Whether nodes carry their place in the source. -/
  position : Bool := false
  /-- The deepest nesting that is converted. -/
  maxDepth : Nat := 200
  maxDepth_pos : 0 < maxDepth := by decide
  /-- Whether a reference without a definition is a failure. -/
  strictReferences : Bool := false
  /-- The tag of the element that holds the footnotes. -/
  footnotesTag : String := "footer"
  outputDir : String := "dist"
  outputFormat : OutputFormat := .json

instance : Inhabited Settings := ⟨{}⟩

namespace Settings

/-- The names under which settings are given, in the order in which they are checked. -/
def fieldNames : List String :=
  ["app_name", "parser_config", "position", "max_depth", "strict_references", "footnotes_tag",
    "output_dir", "output_format"]

/-- A positive integer. -/
def readLimit (v : Value) : Check { n : Nat // 0 < n } :=
  (Check.integer v).bind fun n =>
    if h : 0 < n.toNat then .accept ⟨n.toNat, h⟩ else .fail .tooSmall

/-- The name of a format. -/
def readFormat (v : Value) : Check OutputFormat :=
  (Check.text v).bind fun s =>
    if s = "json" then .accept .json else if s = "html" then .accept .html else .fail .wrongPattern

/-- Reads settings; members of other names are ignored. -/
def ofFields (fields : Fields) : Check Settings :=
  (fun appName parserConfig position (limit : { n : Nat // 0 < n }) strictReferences footnotesTag
      outputDir outputFormat =>
    { appName, parserConfig, position, maxDepth := limit.1, maxDepth_pos := limit.2,
      strictReferences, footnotesTag, outputDir, outputFormat : Settings })
    <$> Check.defaulting fields "app_name" "mdvdom" Check.text
    <*> Check.defaulting fields "parser_config" "gfm-like" Check.text
    <*> Check.defaulting fields "position" false Check.boolean
    <*> Check.defaulting fields "max_depth" ⟨200, by decide⟩ readLimit
    <*> Check.defaulting fields "strict_references" false Check.boolean
    <*> Check.defaulting fields "footnotes_tag" "footer" Check.text
    <*> Check.defaulting fields "output_dir" "dist" Check.text
    <*> Check.defaulting fields "output_format" .json readFormat

/-- All settings as named values. -/
def toFields (s : Settings) : Fields :=
  [("app_name", .string s.appName), ("parser_config", .string s.parserConfig),
    ("position", .bool s.position), ("max_depth", .int s.maxDepth),
    ("strict_references", .bool s.strictReferences), ("footnotes_tag", .string s.footnotesTag),
    ("output_dir", .string s.outputDir), ("output_format", .string s.outputFormat.name)]

end Settings

end MarkdownTree
