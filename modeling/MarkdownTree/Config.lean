import MarkdownTree.Settings
import MarkdownTree.Yaml.Data

/-!
# Configuration

Settings come from three layers: the configuration file, the environment and what the caller asks
for. A later layer replaces single fields of the ones before. Only then are the fields checked.
-/

namespace MarkdownTree

/-- The name of the configuration file. -/
def configFile : String := "config.yaml"

/-- Why there are no settings. -/
inductive ConfigFault where
  /-- The file holds no YAML, or values that do not exist or cannot be read. -/
  | unreadable (fault : Yaml.Fault)
  /-- The file holds no mapping, and fields of the environment cannot be set in it. -/
  | notAssignable
  /-- The file holds no mapping that could take what the caller asks for. -/
  | notUpdatable
  /-- The file holds no mapping, or a key that is no text. -/
  | notFields
  /-- Fields are of the wrong type or out of range. -/
  | refused (reasons : List Refusal)
  deriving DecidableEq

/-- The text of a fault that comes from the contents of a layer. What the reader of scalars is not
prepared for has none, and neither has data that takes or gives no fields. -/
def ConfigFault.message? : ConfigFault → Option String
  | .unreadable (.form fault) => some ("Invalid " ++ configFile ++ ": " ++ fault.message)
  | .unreadable (.scalar _) | .unreadable .stackExhausted => none
  | .unreadable fault => some fault.message
  | .refused [_] => some "1 validation error for Settings"
  | .refused reasons => some s!"{reasons.length} validation errors for Settings"
  | .notAssignable | .notUpdatable | .notFields => none

namespace Config

/-- The variable of the environment that sets a field. -/
def variableName (field : String) : String := "MDVDOM_" ++ field.map Char.toUpper

/-- The fields that the environment sets; an empty variable sets none. -/
def environmentFields (environment : Entries String String) : Fields :=
  Settings.fieldNames.filterMap fun field =>
    match Entries.get? environment (variableName field) with
    | some value => if value = "" then none else some (field, .string value)
    | none => none

/-- The fields that a caller asks for; null asks for none. -/
def requestedFields (requested : Fields) : Fields := requested.filter fun m => !m.2.isNull

/-- Whether a key is a text, of characters or not. -/
def isTextKey : Yaml.Data → Bool
  | .text _ | .surrogates _ => true
  | _ => false

/-- The entries of the file whose keys are texts of characters. -/
def textEntries (entries : List (Yaml.Data × Yaml.Data)) : Fields :=
  entries.filterMap fun (k, v) =>
    match k with
    | .text name => some (name, v.toValue)
    | _ => none

/-- The fields that all layers together set, the file having been read already. A file without
data counts as an empty mapping. -/
def layered (data : Yaml.Data) (environment : Entries String String) (requested : Fields) :
    Except ConfigFault Fields :=
  let data := if data.isTruthy then data else .mapping []
  match data with
  | .mapping entries =>
    if entries.all fun e => isTextKey e.1 then
      .ok (Entries.merge (Entries.merge (textEntries entries) (environmentFields environment))
        (requestedFields requested))
    else .error .notFields
  | .set _ =>
    if !(environmentFields environment).isEmpty then .error .notAssignable else .error .notFields
  | _ =>
    if !(environmentFields environment).isEmpty then .error .notAssignable
    else if !requested.isEmpty then .error .notUpdatable
    else .error .notFields

/-- The settings of all layers, given the text of the file if there is one. -/
def load (file : Option String) (environment : Entries String String) (requested : Fields)
    (stackLimit : Option Nat := usualStackLimit) : Except ConfigFault Settings := do
  let data ← match file with
    | some text => (Yaml.Data.ofText text stackLimit).mapError .unreadable
    | none => .ok .null
  let fields ← layered data environment requested
  (Settings.ofFields fields).toExcept.mapError .refused

end Config

end MarkdownTree
