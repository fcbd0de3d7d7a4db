import MarkdownTree.Validation.Basic
import MarkdownTree.Value.Text
import MarkdownTree.Yaml.Data

/-!
# Front matter

The block at the beginning of a document is YAML that holds a mapping. A text without data counts
as an empty mapping. Only the keys of the outermost mapping have to be texts; bytes count as the
text whose UTF-8 form they are.
-/

namespace MarkdownTree.FrontMatter

/-- Why front matter is refused. -/
inductive Fault where
  | yaml (fault : Yaml.FormFault)
  /-- The text holds data of another type. -/
  | notMapping (typeName : String)
  /-- A value that does not exist, with the reason. -/
  | value (message : String)
  deriving DecidableEq

/-- The entries of the mapping that a text holds. -/
def entries (text : String) : Except Fault (List (Yaml.Data × Yaml.Data)) :=
  match Yaml.Data.ofText text with
  | .error (.form fault) => .error (.yaml fault)
  | .error fault => .error (.value fault.message)
  | .ok data =>
    if !data.isTruthy then .ok []
    else match data with
      | .mapping es => .ok es
      | data => .error (.notMapping data.typeName)

/-- The place of a key that is no text. -/
def keyPlace (k : Yaml.Data) : String :=
  match k.integral?, k with
  | some _, .float _ => k.toValue.quoted
  | some n, _ => toString n
  | none, _ => k.toValue.quoted

/-- The entries as named values. -/
def checkEntries (es : List (Yaml.Data × Yaml.Data)) : Check Fields :=
  match es with
  | [] => .accept []
  | (k, v) :: es =>
    let name : Check String := match k.asText? with
      | some s => .accept s
      | none => .refuse [⟨[keyPlace k, "[key]"], .notText⟩]
    Check.seq (name.map fun name => ((name, v.toValue) :: ·)) fun _ => checkEntries es

/-- Whether the data of front matter can be written, nested no deeper than the given number of
levels. -/
def isWritable (levels : Nat) (text : String) : Bool :=
  match entries text with
  | .ok es => Yaml.Data.entriesWritable levels es
  | .error _ => true

end MarkdownTree.FrontMatter
