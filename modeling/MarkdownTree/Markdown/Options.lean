import MarkdownTree.Text.Quoted
import MarkdownTree.Value.Basic

/-!
# Options of the reader

A preset names a choice of rules and limits; single options are set on top of it.
-/

namespace MarkdownTree.Markdown

/-- Why a text cannot be read. -/
inductive Fault where
  /-- The reader looks at a line that stands behind the end of the text. -/
  | beyondEnd
  | unknownPreset (name : String)
  /-- Bare addresses should become links, which is not supported. -/
  | noBareLinks
  /-- The limit of nesting is no number. -/
  | incomparableLimit (typeName : String)
  deriving DecidableEq

/-- The text of a fault, as it is reported for a document. -/
def Fault.message : Fault → String
  | .beyondEnd => "Failed to parse markdown: string index out of range"
  | .unknownPreset name =>
    "Failed to parse markdown: " ++
      Text.quoted ("Wrong \x60markdown-it\x60 preset '" ++ name ++ "', check name")
  | .noBareLinks => "Failed to parse markdown: Linkify enabled but not installed."
  | .incomparableLimit typeName =>
    "Failed to parse markdown: '>=' not supported between instances of 'int' and '" ++ typeName ++ "'"

/-- The least level at which nothing is read any more. -/
inductive Limit where
  | level (n : Int)
  /-- A value that levels cannot be compared with. -/
  | incomparable (typeName : String)
  deriving DecidableEq

/-- The limit that a value sets. -/
def Limit.ofValue : Value → Limit
  | .int n => .level n
  | .bool b => .level (if b then 1 else 0)
  | .float x => .level (x.ceil?.getD 0)
  | .null => .incomparable "NoneType"
  | .list _ => .incomparable "list"
  | .object _ => .incomparable "dict"
  | _ => .incomparable "str"

/-- Whether nothing is read at a level. -/
def Limit.reached (limit : Limit) (level : Nat) : Bool :=
  match limit with
  | .level n => n ≤ level
  | .incomparable _ => true

/-- What a reader is asked to do. -/
structure Options where
  /-- Whether only paragraphs, tables, notes and struck out text are read. -/
  plain : Bool := false
  html : Bool := true
  limit : Limit := .level 20
  /-- Whether definitions of references are reported where they stand. -/
  listsDefinitions : Bool := false
  /-- Whether bare addresses should become links. -/
  bareLinks : Bool := false

namespace Options

/-- The options of a preset. -/
def ofPreset? (name : String) : Option Options :=
  if name = "gfm-like" ∨ name = "commonmark" then some {}
  else if name = "js-default" ∨ name = "default" then some { html := false, limit := .level 100 }
  else if name = "zero" then some { plain := true, html := false }
  else none

/-- The presets in which bare addresses can become links. -/
def readsBareLinks (preset : String) : Bool :=
  preset = "gfm-like" || preset = "js-default" || preset = "default"

/-- The options of a preset with single options set on top. -/
def ofFields (preset : String) (fields : Fields) : Except Fault Options :=
  match ofPreset? preset with
  | none => .error (.unknownPreset preset)
  | some o =>
    let flag (name : String) (default : Bool) : Bool :=
      ((Entries.get? fields name).map Value.isTruthy).getD default
    .ok { o with
          html := flag "html" o.html
          limit := ((Entries.get? fields "maxNesting").map Limit.ofValue).getD o.limit
          listsDefinitions := flag "inline_definitions" false
          bareLinks := readsBareLinks preset && flag "linkify" false }

end Options

end MarkdownTree.Markdown
