import MarkdownTree.Config
import MarkdownTree.Proofs.Entries
import MarkdownTree.Proofs.Settings
import MarkdownTree.Proofs.Yaml.Mapping

/-!
# Layers shadow each other field by field

What counts for a field is what the caller asks for, else the environment, else the file
(`Layers.raw`). Null asks for nothing and an empty variable sets nothing, but null in the file does
count. Loading is the check of what counts and of nothing else (`layers_shadow`): a value that is
shadowed is never checked, and a name that no field has is never looked at.
-/

namespace MarkdownTree.Config

open Settings (fieldNames Unfit)

/-- Layers of configuration, the file having been read already. The caller asks for every field once
at most. -/
structure Layers where
  /-- What the file holds. -/
  fields : Fields
  environment : Entries String String
  requested : Fields
  distinct : (Entries.keys requested).Nodup

/-- The file holds these fields: it is missing, its data count as false, as those of an empty file
do, or it holds a mapping with texts as keys. -/
inductive Holds : Option String → Fields → Prop
  | missing : Holds none []
  | empty {text : String} {data : Yaml.Data} (read : Yaml.Data.ofText text = .ok data)
      (falsy : data.isTruthy = false) : Holds (some text) []
  | mapping {text : String} (entries : List (String × Yaml.Data))
      (read : Yaml.Data.ofText text = .ok (.mapping (entries.map fun e => (.text e.1, e.2)))) :
      Holds (some text) (entries.map fun e => (e.1, e.2.toValue))

namespace Layers

/-- The value of a field that counts. -/
def raw (l : Layers) (field : String) : Option Value :=
  ((Entries.get? l.requested field).filter (!·.isNull)).or
    ((((Entries.get? l.environment (variableName field)).filter (· ≠ "")).map Value.string).or
      (Entries.get? l.fields field))

/-- The fields with the values that count. -/
def effective (l : Layers) : Fields :=
  fieldNames.filterMap fun field => (l.raw field).map (field, ·)

variable {l l' : Layers}

theorem get?_effective {field : String} (known : field ∈ fieldNames) :
    Entries.get? l.effective field = l.raw field := by
  rw [effective, Entries.get?_filterMap, if_pos known]

end Layers

theorem environmentFields_eq (environment : Entries String String) :
    environmentFields environment = fieldNames.filterMap fun field =>
      (((Entries.get? environment (variableName field)).filter (· ≠ "")).map Value.string).map
        (field, ·) := by
  refine Entries.filterMap_congr fun field _ => ?_
  cases Entries.get? environment (variableName field) with
  | none => rfl
  | some value => by_cases blank : value = "" <;> simp [blank, Option.filter]

/-- The layers put on top of each other. -/
def Layers.merged (l : Layers) : Fields :=
  Entries.merge (Entries.merge l.fields (environmentFields l.environment))
    (requestedFields l.requested)

variable {file file' : Option String} {l l' : Layers}

theorem get?_merged {field : String} (known : field ∈ fieldNames) :
    Entries.get? l.merged field = l.raw field := by
  have once : (Entries.keys (environmentFields l.environment)).Nodup := by
    rw [environmentFields_eq]
    exact (Entries.keys_filterMap_sublist _ _).nodup (by decide)
  have asked : (Entries.keys (requestedFields l.requested)).Nodup :=
    (List.filter_sublist.map Prod.fst).nodup l.distinct
  rw [Layers.merged, Entries.get?_merge_of_nodup asked, Entries.get?_merge_of_nodup once,
    environmentFields_eq, Entries.get?_filterMap, if_pos known]
  exact congrArg (Option.or · _) (Entries.get?_filter l.distinct (!·.isNull) field)

theorem textEntries_map (entries : List (String × Yaml.Data)) :
    textEntries (entries.map fun e => (.text e.1, e.2)) =
      entries.map fun e => (e.1, e.2.toValue) := by
  induction entries with
  | nil => rfl
  | cons e entries ih => exact congrArg _ ih

theorem layered_of_not_truthy {data : Yaml.Data} (h : data.isTruthy = false)
    (environment : Entries String String) (requested : Fields) :
    layered data environment requested = layered (.mapping []) environment requested := by
  rw [layered, h]
  rfl

theorem layered_mapping (entries : List (String × Yaml.Data))
    (same : l.fields = entries.map fun e => (e.1, e.2.toValue)) :
    layered (.mapping (entries.map fun e => (.text e.1, e.2))) l.environment l.requested =
      .ok l.merged := by
  have texts := textEntries_map entries
  rw [← same] at texts
  have keys : (entries.map fun e => (Yaml.Data.text e.1, e.2)).all fun e => isTextKey e.1 := by
    simp [isTextKey]
  have opened (es : List (Yaml.Data × Yaml.Data)) :
      layered (.mapping es) l.environment l.requested =
        if es.all fun e => isTextKey e.1 then
          .ok (Entries.merge (Entries.merge (textEntries es) (environmentFields l.environment))
            (requestedFields l.requested))
        else .error .notFields := by
    cases es <;> rfl
  rw [opened, texts, if_pos keys]
  rfl

/-- Loading succeeds or fails as the check of the merged fields does. -/
theorem load_of_holds (holds : Holds file l.fields) :
    load file l.environment l.requested =
      (Settings.ofFields l.merged).toExcept.mapError .refused := by
  have loaded {data : Yaml.Data}
      (layers : layered data l.environment l.requested = .ok l.merged) :
      (do
        let fields ← layered data l.environment l.requested
        (Settings.ofFields fields).toExcept.mapError ConfigFault.refused) =
      (Settings.ofFields l.merged).toExcept.mapError .refused := by
    rw [layers]
    rfl
  generalize same : l.fields = fields at holds
  cases holds with
  | missing => exact loaded (layered_mapping [] same)
  | empty read falsy =>
    rw [load, read]
    exact loaded ((layered_of_not_truthy falsy _ _).trans (layered_mapping [] same))
  | mapping entries read =>
    rw [load, read]
    exact loaded (layered_mapping entries same)

theorem load_eq (holds : Holds file l.fields) :
    load file l.environment l.requested =
      (Settings.ofFields l.effective).toExcept.mapError .refused := by
  rw [load_of_holds holds, Settings.ofFields_congr fun field known =>
    (get?_merged known).trans (Layers.get?_effective known).symm]

theorem effective_congr (same : ∀ field ∈ fieldNames, l'.raw field = l.raw field) :
    l'.effective = l.effective :=
  Entries.filterMap_congr fun field known => by rw [same field known]

/-- The fields that are at fault are those whose values that count are unfit. -/
theorem effective_refusesAt (l : Layers) :
    (Settings.ofFields l.effective).RefusesAt fun path =>
      ∃ field ∈ fieldNames, path = [field] ∧ Unfit field (l.raw field) := by
  refine (Settings.ofFields_refusesAt l.effective).congr fun path => ?_
  refine exists_congr fun field => and_congr_right fun known => ?_
  rw [Layers.get?_effective known]

theorem load_congr (holds : Holds file l.fields) (holds' : Holds file' l'.fields)
    (same : ∀ field ∈ fieldNames, l'.raw field = l.raw field) :
    load file' l'.environment l'.requested = load file l.environment l.requested := by
  rw [load_eq holds', load_eq holds, effective_congr same]

theorem load_fails_iff (holds : Holds file l.fields) :
    (∃ fault, load file l.environment l.requested = .error fault) ↔
      ∃ field ∈ fieldNames, Unfit field (l.raw field) := by
  have somewhere : (∃ path, ∃ field ∈ fieldNames, path = [field] ∧ Unfit field (l.raw field)) ↔
      ∃ field ∈ fieldNames, Unfit field (l.raw field) := by
    constructor
    · rintro ⟨path, field, known, _, unfit⟩
      exact ⟨field, known, unfit⟩
    · rintro ⟨field, known, unfit⟩
      exact ⟨_, field, known, rfl, unfit⟩
  rw [load_eq holds, ← somewhere, ← (effective_refusesAt l).refuses_iff]
  cases Settings.ofFields l.effective <;> simp [Check.toExcept, Except.mapError]

/-- Where loading fails, the reasons stand at the unfit fields. -/
theorem exists_reasons (holds : Holds file l.fields) {fault : ConfigFault}
    (failed : load file l.environment l.requested = .error fault) :
    ∃ reasons, fault = .refused reasons ∧
      ∀ path, (∃ reason ∈ reasons, reason.path = path) ↔
        ∃ field ∈ fieldNames, path = [field] ∧ Unfit field (l.raw field) := by
  have located := (effective_refusesAt l).located_iff
  rw [load_eq holds] at failed
  cases outcome : Settings.ofFields l.effective with
  | accept settings =>
    rw [outcome] at failed
    cases failed
  | refuse reasons =>
    rw [outcome] at failed located
    cases failed
    exact ⟨reasons, rfl, located⟩

/-- A file with a limit that is no number and a name that no field has. -/
def limitText : String := "\"max_depth\": \"x\"\n\"hue\": \"red\""

/-- The limit of the file is shadowed, and so is the format of the environment. -/
def shadowing : Layers where
  fields := [("max_depth", .string "x"), ("hue", .string "red")]
  environment := [("MDVDOM_OUTPUT_FORMAT", "pdf"), ("MDVDOM_POSITION", "")]
  requested := [("output_format", .string "html"), ("max_depth", .int 3), ("position", .null)]
  distinct := by decide

end MarkdownTree.Config
