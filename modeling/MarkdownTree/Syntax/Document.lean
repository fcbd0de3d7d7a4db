import MarkdownTree.FrontMatter
import MarkdownTree.Node.Basic
import MarkdownTree.Syntax.Tree
import MarkdownTree.Text.Integer
import MarkdownTree.Text.Word
import MarkdownTree.Validation.Scalar

/-!
# Documents from syntax trees

A syntax tree becomes a document. Neighbouring texts are joined into one, an inline node is
replaced by what it holds, and a list item that begins with a box is a task. Kinds that are not
known keep their name. The definitions of references and the inline footnotes that the reader has
found follow at the end.
-/

namespace MarkdownTree.Syntax

/-- Why a syntax tree makes no document. -/
inductive Fault where
  /-- The tokens are not nested. -/
  | nesting
  /-- A text that should be a number is none. -/
  | unreadableNumber
  /-- A value that should be a number is none. -/
  | notNumber
  /-- A node that needs content has none. -/
  | noContent
  /-- Fields of a node are of the wrong type. -/
  | refused (reasons : List Refusal)
  | frontMatter (fault : FrontMatter.Fault)
  deriving DecidableEq

/-- The text of a fault, as it is reported for a document. -/
def Fault.message : Fault → String
  | .frontMatter (.yaml fault) => "Invalid YAML frontmatter: " ++ fault.message
  | .frontMatter (.notMapping name) =>
    "Invalid YAML frontmatter: expected a mapping, got " ++ name
  | .frontMatter (.value message) => "Failed to parse markdown: " ++ message
  | .refused [_] => "Failed to parse markdown: 1 validation error for ASTNode"
  | .refused reasons =>
    s!"Failed to parse markdown: {reasons.length} validation errors for ASTNode"
  | .nesting => "Failed to parse markdown: invalid token nesting"
  | .unreadableNumber => "Failed to parse markdown: not a number"
  | .notNumber => "Failed to parse markdown: a value that is not a number"
  | .noContent => "Failed to parse markdown: a node without content"

/-- The target of references. -/
structure Reference where
  href : Value := .null
  title : Value := .null

/-- What a reader has found beside the tokens. -/
structure Environment where
  /-- The targets of references by label. -/
  references : Entries String Reference := []
  /-- The footnotes by number; only inline ones have tokens. -/
  footnotes : List (Int × Option (List Token)) := []

/-- A step that can fail. -/
abbrev Build := Except Fault

/-- The outcome of the check of fields. -/
def ofCheck (c : Check α) : Build α := c.toExcept.mapError .refused

/-- Joins neighbouring texts. -/
def joinTexts : List Node → List Node
  | [] => []
  | n :: ns =>
    match joinTexts ns with
    | [] => [n]
    | m :: ms =>
      if n.kind = "text" ∧ m.kind = "text" then
        { n with value := some (n.value.getD "" ++ m.value.getD "") } :: ms
      else n :: m :: ms

/-- The text without one line feed at its end. -/
def withoutLineFeed (s : String) : String :=
  if s.endsWith "\n" then String.ofList s.toList.dropLast else s

/-- The place in the source of a node with the given lines. -/
def placeOf (position : Bool) (lines : Option (Int × Int)) : Option Fields :=
  match position, lines with
  | true, some (first, last) =>
    some [("start", .object [("line", .int (first + 1))]), ("end", .object [("line", .int last)])]
  | _, _ => none

/-- The alignment that the style of a cell names: the word after `text-align:`. -/
def alignmentIn : List Char → Option String
  | [] => none
  | c :: cs =>
    let mark := "text-align:".toList
    let word := (((c :: cs).drop mark.length).dropWhile Text.isBlank).takeWhile Text.isWordCharacter
    if mark.isPrefixOf (c :: cs) ∧ !word.isEmpty then some (String.ofList word) else alignmentIn cs

/-- The alignment of a cell. -/
def cellAlignment (cell : Tree) : Option String :=
  alignmentIn (((Entries.get? cell.attrs "style").getD (.string "")).text.toList)

/-- The identifier of a footnote: its label, or its number counted from one. -/
def footnoteLabel (details : Fields) : Build Value :=
  let label := (Value.object details).member "label"
  if label.isTruthy then pure label
  else match (Entries.get? details "id").getD (.int 0) with
    | .int n => pure (.string (toString (n + 1)))
    | .bool b => pure (.string (if b then "2" else "1"))
    | .float x => pure (.string (Value.float x.succ).text)
    | _ => throw .notNumber

/-- The number of the first item of an ordered list. -/
def startNumber (attrs : Fields) : Build Int :=
  match (Entries.get? attrs "start").getD (.int 1) with
  | .int n => pure n
  | .bool b => pure (if b then 1 else 0)
  | .float x => match x.truncate? with
    | some n => pure n
    | none => throw .unreadableNumber
  | .string s => match Text.integer? s with
    | some n => pure n
    | none => throw .unreadableNumber
  | _ => throw .notNumber

/-- The level of a heading, which its tag ends with. -/
def headingDepth (tag : String) : Build Int :=
  match Text.integer? (String.ofList (tag.toList.drop 1)) with
  | some n => pure n
  | none => throw .unreadableNumber

/-- The content of a node that needs one. -/
def contentOf (t : Tree) : Build String :=
  match t.content with
  | some s => pure s
  | none => throw .noContent

/-- The language of a block of code: the first word behind its fence. -/
def languageOf (t : Tree) : Option String :=
  if t.kind = "fence" then (Text.words t.info).head? else none

/-- A box at the beginning of a text, whether it is ticked, and the text after it. -/
def taskMarker (s : String) : Option (Bool × String) :=
  match s.toList with
  | '[' :: c :: ']' :: rest =>
    let after := rest.dropWhile Text.isBlank
    if (c = ' ' ∨ c = 'x' ∨ c = 'X') ∧ after.length < rest.length then
      some (c ≠ ' ', String.ofList after)
    else none
  | _ => none

/-- A list item without the box in front of its first text, and whether the box is ticked. -/
def takeTask (children : List Node) : Option Bool × List Node :=
  match children with
  | p :: rest =>
    match p.kind, p.childList with
    | "paragraph", t :: ts =>
      match t.kind, taskMarker (t.value.getD "") with
      | "text", some (done, text) =>
        (some done, p.withChildren ({ t with value := some text } :: ts) :: rest)
      | _, _ => (none, children)
    | _, _ => (none, children)
  | [] => (none, [])

/-- The node with its label as identifier. -/
def withLabel (label : Value) (n : Node) : Build Node :=
  ofCheck ((fun identifier label => { n with identifier := some identifier, label := some label })
    <$> (Check.text label).within "identifier" <*> (Check.text label).within "label")

/-- A link, an image or a definition: the title and the target are checked in this order. -/
def withTarget (fieldName : String) (title target : Value)
    (make : Option String → Option String → Node) : Build Node :=
  ofCheck (make <$> (Check.nullable Check.text title).within "title"
    <*> (Check.nullable Check.text target).within fieldName)

/-- The value of an attribute, null if it is absent. -/
def attr (t : Tree) (name : String) : Value := (Entries.get? t.attrs name).getD .null

/-- The kinds whose nodes hold their children under another name. -/
def containerKinds : List (String × String) :=
  [("paragraph", "paragraph"), ("blockquote", "blockquote"), ("em", "emphasis"),
    ("strong", "strong"), ("s", "delete")]

/-- The rows of a table with the cells in them, and the alignments its last header row names. -/
structure TableContent where
  align : List (Option String) := []
  children : List Node := []

mutual

/-- The nodes that a node of the syntax tree becomes. -/
def build (position : Bool) (t : Tree) : Build (List Node) := do
  let place := placeOf position t.lines
  let one (n : Node) : Build (List Node) := pure [n]
  match Entries.get? containerKinds t.kind with
  | some kind => one { kind, children := some (← buildAll position t.children), position := place }
  | none =>
    match t.kind with
    | "inline" => buildAll position t.children
    | "heading" =>
      let depth ← headingDepth t.tag
      one { kind := "heading", depth := some depth,
            children := some (← buildAll position t.children), position := place }
    | "bullet_list" =>
      one { kind := "list", ordered := some false,
            children := some (← buildAll position t.children), position := place }
    | "ordered_list" =>
      let start ← startNumber t.attrs
      one { kind := "list", ordered := some true, start := some start,
            children := some (← buildAll position t.children), position := place }
    | "list_item" =>
      let (checked, children) := takeTask (← buildAll position t.children)
      one { kind := "listItem", checked, children := some children, position := place }
    | "fence" | "code_block" =>
      one { kind := "code", lang := languageOf t,
            value := some (withoutLineFeed (← contentOf t)), position := place }
    | "html_block" | "html_inline" =>
      one { kind := "html", value := some (withoutLineFeed (← contentOf t)), position := place }
    | "hr" => one { kind := "horizontalRule", position := place }
    | "table" =>
      let content ← buildSections position {} t.children
      one { kind := "table", align := some (.columns content.align),
            children := some content.children, position := place }
    | "front_matter" =>
      let text ← contentOf t
      let entries ← (FrontMatter.entries text).mapError .frontMatter
      let fields ← ofCheck ((FrontMatter.checkEntries entries).within "data")
      one { kind := "yaml", value := some text, data := some fields, position := place }
    | "footnote_reference" =>
      let label ← footnoteLabel t.details
      let children ← buildAll position t.children
      one (← withLabel label
        { kind := "footnoteDefinition", children := some children, position := place })
    | "footnote_ref" =>
      one (← withLabel (← footnoteLabel t.details) { kind := "footnoteReference" })
    | "text" => one { kind := "text", value := t.content }
    | "softbreak" => one { kind := "text", value := some "\n" }
    | "hardbreak" => one { kind := "break" }
    | "code_inline" => one { kind := "inlineCode", value := t.content }
    | "link" =>
      let children ← buildAll position t.children
      one (← withTarget "href" (attr t "title") (attr t "href") fun title href =>
        { kind := "link", title, href, children := some children })
    | "image" =>
      one (← withTarget "src" (attr t "title") (attr t "src") fun title src =>
        { kind := "image", title, src, alt := t.content })
    | kind =>
      let children ← buildAll position t.children
      one { kind, value := t.content.filter (· ≠ ""),
            children := if children.isEmpty then none else some children, position := place }
termination_by (sizeOf t, 0)
decreasing_by all_goals exact Prod.Lex.left _ _ (Tree.sizeOf_children_lt t)

/-- The nodes that several nodes of the syntax tree become, with neighbouring texts joined. -/
def buildAll (position : Bool) (ts : List Tree) : Build (List Node) := do
  return joinTexts (← buildEach position ts)
termination_by (sizeOf ts, 1)

/-- The nodes that several nodes of the syntax tree become. -/
def buildEach (position : Bool) (ts : List Tree) : Build (List Node) := do
  match ts with
  | [] => return []
  | t :: ts => return (← build position t) ++ (← buildEach position ts)
termination_by (sizeOf ts, 0)

/-- The content of the sections of a table. -/
def buildSections (position : Bool) (content : TableContent) (ts : List Tree) :
    Build TableContent := do
  match ts with
  | [] => return content
  | section_ :: ts =>
    let content ← buildRows position section_.kind section_.lines content section_.children
    buildSections position content ts
termination_by (sizeOf ts, 0)
decreasing_by
  · have := Tree.sizeOf_children_lt section_
    exact Prod.Lex.left _ _ (by simp only [List.cons.sizeOf_spec]; omega)
  · exact Prod.Lex.left _ _ (by simp only [List.cons.sizeOf_spec]; omega)

/-- The content of the rows of a section. A row of the head is a header in the place of its
section. -/
def buildRows (position : Bool) (kind : String) (lines : Option (Int × Int))
    (content : TableContent) (ts : List Tree) : Build TableContent := do
  match ts with
  | [] => return content
  | row :: ts =>
    let cells ← buildCells position row.children
    let content : TableContent :=
      if kind = "thead" then
        { align := row.children.map cellAlignment,
          children := content.children ++
            [{ kind := "tableHeader", children := some cells, position := placeOf position lines }] }
      else
        { content with
          children := content.children ++
            [{ kind := "tableRow", children := some cells,
               position := placeOf position row.lines }] }
    buildRows position kind lines content ts
termination_by (sizeOf ts, 0)
decreasing_by
  · have := Tree.sizeOf_children_lt row
    exact Prod.Lex.left _ _ (by simp only [List.cons.sizeOf_spec]; omega)
  · exact Prod.Lex.left _ _ (by simp only [List.cons.sizeOf_spec]; omega)

/-- The cells of a row. -/
def buildCells (position : Bool) (ts : List Tree) : Build (List Node) := do
  match ts with
  | [] => return []
  | cell :: ts =>
    let children ← buildAll position cell.children
    let n : Node := { kind := "tableCell", children := some children,
                      position := placeOf position cell.lines }
    return n :: (← buildCells position ts)
termination_by (sizeOf ts, 0)
decreasing_by
  · have := Tree.sizeOf_children_lt cell
    exact Prod.Lex.left _ _ (by simp only [List.cons.sizeOf_spec]; omega)
  · exact Prod.Lex.left _ _ (by simp only [List.cons.sizeOf_spec]; omega)

end

/-- The definition of a label. -/
def definitionNode (label : String) (r : Reference) : Build Node :=
  withTarget "link" (if r.title.isTruthy then r.title else .null) r.href fun title link =>
    { kind := "definition", identifier := some label, label := some label, title, link }

/-- The footnote with the tokens of an inline note. -/
def inlineFootnote (position : Bool) (number : Int) (tokens : List Token) : Build Node := do
  let label := toString (number + 1)
  match Tree.nest? tokens with
  | none => throw .nesting
  | some ts =>
    let children ← buildAll position ts
    return { kind := "footnoteDefinition", identifier := some label, label := some label,
             children := some [{ kind := "paragraph", children := some children }] }

/-- The inline footnotes in the order of their numbers. -/
def inlineFootnotes (position : Bool) (footnotes : List (Int × Option (List Token))) :
    Build (List Node) :=
  ((footnotes.filterMap fun f => f.2.map fun ts => (f.1, ts)).mergeSort fun a b => a.1 ≤ b.1).mapM
    fun f => inlineFootnote position f.1 f.2

/-- The document of a syntax tree. -/
def buildDocument (position : Bool) (ts : List Tree) (env : Environment) : Build Node := do
  let body ← buildAll position ts
  let definitions ← env.references.mapM fun r => definitionNode r.1 r.2
  let footnotes ← inlineFootnotes position env.footnotes
  return { kind := "root", children := some (body ++ definitions ++ footnotes) }

/-- The document of a list of tokens. -/
def documentOfTokens (position : Bool) (tokens : List Token) (env : Environment) : Build Node :=
  match Tree.nest? tokens with
  | none => throw .nesting
  | some ts => buildDocument position ts env

end MarkdownTree.Syntax
