import MarkdownTree.Proofs.Cli.Steps
import MarkdownTree.Proofs.Files.Reading

/-!
# What breaks the loading of the settings off

Whatever is wrong with the contents of the configuration file or of another layer is told to the
user. The exceptions are listed by `Unloadable`: the file is a directory, a scalar in it is one that
the reader is not prepared for, its nodes nest too deep, or its data is something other than a
mapping whose keys are texts (`loading_eq_escaped_iff`).
-/

namespace MarkdownTree.Cli

open Files (Path Tree)

/-- Why data takes and gives no fields: a key of a mapping is no text, or the data is no mapping.
What is said of other data depends on what it is asked for first. -/
inductive Misfit (data : Yaml.Data) (environment : Entries String String) (fields : Fields) :
    ConfigFault → Prop
  | key {entries : List (Yaml.Data × Yaml.Data)} {e : Yaml.Data × Yaml.Data}
      (mapping : data = .mapping entries) (member : e ∈ entries)
      (noText : Config.isTextKey e.1 = false) : Misfit data environment fields .notFields
  /-- The environment sets a field. -/
  | assign (truthy : data.isTruthy = true) (noMapping : ∀ entries, data ≠ .mapping entries)
      (sets : Config.environmentFields environment ≠ []) :
      Misfit data environment fields .notAssignable
  /-- The caller asks for a field, and only a set could take it. -/
  | update (truthy : data.isTruthy = true) (noMapping : ∀ entries, data ≠ .mapping entries)
      (noSet : ∀ members, data ≠ .set members)
      (unset : Config.environmentFields environment = []) (asks : fields ≠ []) :
      Misfit data environment fields .notUpdatable
  | give (truthy : data.isTruthy = true) (noMapping : ∀ entries, data ≠ .mapping entries)
      (unset : Config.environmentFields environment = [])
      (idle : fields = [] ∨ ∃ members, data = .set members) :
      Misfit data environment fields .notFields

/-- What breaks the loading of the settings off. -/
inductive Unloadable (files : Tree) (environment : Entries String String) (fields : Fields)
    (stackLimit : Option Nat) : Escape → Prop
  | directory (there : files.at? (.ofText configFile) = some .directory) :
      Unloadable files environment fields stackLimit (.file .isDirectory)
  | scalar {text : String} {fault : Yaml.ScalarFault}
      (present : configText files = .ok (some text))
      (broken : Yaml.Data.ofText text stackLimit = .error (.scalar fault)) :
      Unloadable files environment fields stackLimit (.config (.unreadable (.scalar fault)))
  | deep {text : String} (present : configText files = .ok (some text))
      (broken : Yaml.Data.ofText text stackLimit = .error .stackExhausted) :
      Unloadable files environment fields stackLimit (.config (.unreadable .stackExhausted))
  | data {text : String} {data : Yaml.Data} {fault : ConfigFault}
      (present : configText files = .ok (some text))
      (parsed : Yaml.Data.ofText text stackLimit = .ok data)
      (misfit : Misfit data environment fields fault) :
      Unloadable files environment fields stackLimit (.config fault)

/-! ### Data -/

section layered

variable {data : Yaml.Data} {environment : Entries String String} {fields : Fields}
  {fault : ConfigFault}

theorem layered_mapping_eq_error_iff {entries : List (Yaml.Data × Yaml.Data)}
    (truthy : (Yaml.Data.mapping entries).isTruthy = true) :
    Config.layered (.mapping entries) environment fields = .error fault ↔
      Misfit (.mapping entries) environment fields fault := by
  rw [Config.layered, if_pos truthy]
  dsimp only
  by_cases texts : (entries.all fun e => Config.isTextKey e.1) = true
  · rw [if_pos texts]
    rw [List.all_eq_true] at texts
    refine ⟨nofun, fun misfit => ?_⟩
    cases misfit with
    | key mapping member noText =>
      cases mapping
      rw [texts _ member] at noText
      cases noText
    | assign _ noMapping _ => exact (noMapping entries rfl).elim
    | update _ noMapping _ _ _ => exact (noMapping entries rfl).elim
    | give _ noMapping _ _ => exact (noMapping entries rfl).elim
  · rw [if_neg texts]
    simp only [List.all_eq_true, not_forall, Bool.not_eq_true] at texts
    obtain ⟨e, member, noText⟩ := texts
    constructor
    · rintro ⟨⟩
      exact .key rfl member noText
    · intro misfit
      cases misfit with
      | key _ _ _ => rfl
      | assign _ noMapping _ => exact (noMapping entries rfl).elim
      | update _ noMapping _ _ _ => exact (noMapping entries rfl).elim
      | give _ noMapping _ _ => exact (noMapping entries rfl).elim

/-- What is said of data that is no mapping. -/
theorem misfit_iff (truthy : data.isTruthy = true)
    (noMapping : ∀ entries, data ≠ .mapping entries) :
    Misfit data environment fields fault ↔
      Config.environmentFields environment ≠ [] ∧ fault = .notAssignable ∨
        Config.environmentFields environment = [] ∧
          (fields ≠ [] ∧ (∀ members, data ≠ .set members) ∧ fault = .notUpdatable ∨
            (fields = [] ∨ ∃ members, data = .set members) ∧ fault = .notFields) := by
  constructor
  · intro misfit
    cases misfit with
    | key mapping _ _ => exact (noMapping _ mapping).elim
    | assign _ _ sets => exact .inl ⟨sets, rfl⟩
    | update _ _ noSet unset asks => exact .inr ⟨unset, .inl ⟨asks, noSet, rfl⟩⟩
    | give _ _ unset idle => exact .inr ⟨unset, .inr ⟨idle, rfl⟩⟩
  · rintro (⟨sets, rfl⟩ | ⟨unset, ⟨asks, noSet, rfl⟩ | ⟨idle, rfl⟩⟩)
    · exact .assign truthy noMapping sets
    · exact .update truthy noMapping noSet unset asks
    · exact .give truthy noMapping unset idle

/-- Data takes and gives fields unless it is something other than a mapping whose keys are texts. -/
theorem layered_eq_error_iff :
    Config.layered data environment fields = .error fault ↔
      Misfit data environment fields fault := by
  by_cases truthy : data.isTruthy = true
  · have error {a b : ConfigFault} :
        (Except.error a : Except ConfigFault Fields) = .error b ↔ b = a := by
      rw [Except.error.injEq, eq_comm]
    cases data with
    | mapping entries => exact layered_mapping_eq_error_iff truthy
    | set members =>
      rw [misfit_iff truthy nofun, Config.layered, if_pos truthy]
      cases Config.environmentFields environment <;> simp [error]
    | _ =>
      rw [misfit_iff truthy nofun, Config.layered, if_pos truthy]
      cases Config.environmentFields environment <;> cases fields <;> simp [error]
  · rw [Config.layered, if_neg truthy]
    refine ⟨nofun, fun misfit => ?_⟩
    cases misfit with
    | key mapping member _ =>
      rw [mapping, Yaml.Data.isTruthy] at truthy
      simp_all
    | assign own _ _ => exact (truthy own).elim
    | update own _ _ _ _ => exact (truthy own).elim
    | give own _ _ _ => exact (truthy own).elim

theorem Misfit.message? (misfit : Misfit data environment fields fault) :
    fault.message? = none := by
  cases misfit <;> rfl

end layered

/-! ### Loading -/

theorem unreadable_message?_iff (fault : Yaml.Fault) :
    (ConfigFault.unreadable fault).message? = none ↔
      (∃ scalar, fault = .scalar scalar) ∨ fault = .stackExhausted := by
  cases fault <;> simp [ConfigFault.message?]

theorem refused_message? (reasons : List Refusal) :
    (ConfigFault.refused reasons).message? ≠ none := by
  unfold ConfigFault.message?
  split <;> simp_all

/-- Checking the layers has a message for whatever it refuses. -/
theorem ofFields_eq_error_iff {layers : Except ConfigFault Fields} {fault : ConfigFault}
    (silent : fault.message? = none) :
    (layers >>= fun layers => (Settings.ofFields layers).toExcept.mapError .refused) =
        .error fault ↔
      layers = .error fault := by
  cases layers with
  | error e => simp [bind, Except.bind]
  | ok layers =>
    refine ⟨fun failed => ?_, by rintro ⟨⟩⟩
    change (Settings.ofFields layers).toExcept.mapError ConfigFault.refused = _ at failed
    cases checked : (Settings.ofFields layers).toExcept with
    | ok settings =>
      rw [checked] at failed
      cases failed
    | error reasons =>
      rw [checked] at failed
      cases failed
      exact (refused_message? reasons silent).elim

section load

variable {text : String} {environment : Entries String String} {fields : Fields}
  {stackLimit : Option Nat} {fault : ConfigFault}

theorem load_none_ne_error (silent : fault.message? = none) :
    Config.load none environment fields stackLimit ≠ .error fault := by
  intro failed
  have nothing : Config.layered .null environment fields = .error fault :=
    (ofFields_eq_error_iff silent).1 failed
  cases nothing

theorem load_of_unreadable {e : Yaml.Fault} (broken : Yaml.Data.ofText text stackLimit = .error e) :
    Config.load (some text) environment fields stackLimit = .error (.unreadable e) := by
  rw [Config.load]
  dsimp only
  rw [broken]
  rfl

theorem load_eq_error_iff {data : Yaml.Data}
    (parsed : Yaml.Data.ofText text stackLimit = .ok data) (silent : fault.message? = none) :
    Config.load (some text) environment fields stackLimit = .error fault ↔
      Misfit data environment fields fault := by
  rw [Config.load]
  dsimp only
  rw [parsed]
  exact (ofFields_eq_error_iff silent).trans layered_eq_error_iff

end load

theorem check_configFile : (Path.ofText configFile).check = .ok () := by decide +kernel

theorem configText_eq_error_iff {files : Tree} {fault : Files.Fault} :
    configText files = .error fault ↔ files.Unreadable (.ofText configFile) fault := by
  unfold configText
  cases there : files.at? (.ofText configFile) with
  | none =>
    refine ⟨nofun, fun unreadable => ?_⟩
    cases unreadable with
    | refused refused =>
      rw [← Path.check_eq_error_iff, check_configFile] at refused
      cases refused
    | directory _ directory =>
      rw [there] at directory
      cases directory
    | notText _ file _ =>
      rw [there] at file
      cases file
  | some c =>
    rw [← Tree.readText_eq_error_iff there]
    cases files.readText (.ofText configFile) with
    | ok text => simp [Except.map]
    | error e => simp [Except.map]

section loading

variable {files : Tree} {environment : Entries String String} {fields : Fields}
  {stackLimit : Option Nat}

theorem loading_of_silent {text : Option String} {fault : ConfigFault}
    (present : configText files = .ok text)
    (failed : Config.load text environment fields stackLimit = .error fault)
    (silent : fault.message? = none) :
    loading files environment fields stackLimit = .escaped (.config fault) := by
  rw [loading, present]
  dsimp only
  rw [failed]
  dsimp only
  rw [silent]

theorem unloadable_of_load {text : Option String} {fault : ConfigFault}
    (present : configText files = .ok text)
    (failed : Config.load text environment fields stackLimit = .error fault)
    (silent : fault.message? = none) :
    Unloadable files environment fields stackLimit (.config fault) := by
  cases text with
  | none => exact (load_none_ne_error silent failed).elim
  | some text =>
    cases parsed : Yaml.Data.ofText text stackLimit with
    | ok data => exact .data present parsed ((load_eq_error_iff parsed silent).1 failed)
    | error e =>
      rw [load_of_unreadable parsed] at failed
      cases failed
      obtain ⟨scalar, rfl⟩ | rfl := (unreadable_message?_iff e).1 silent
      · exact .scalar present parsed
      · exact .deep present parsed

theorem loading_eq_escaped_iff {cause : Escape} :
    loading files environment fields stackLimit = .escaped cause ↔
      Unloadable files environment fields stackLimit cause := by
  constructor
  · intro escaped
    unfold loading at escaped
    cases read : configText files with
    | error fault =>
      rw [read] at escaped
      cases configText_eq_error_iff.1 read with
      | refused refused =>
        rw [← Path.check_eq_error_iff, check_configFile] at refused
        cases refused
      | directory _ there =>
        cases escaped
        exact .directory there
      | notText _ _ _ => cases escaped
    | ok text =>
      rw [read] at escaped
      dsimp only at escaped
      cases loaded : Config.load text environment fields stackLimit with
      | ok settings =>
        rw [loaded] at escaped
        cases escaped
      | error fault =>
        rw [loaded] at escaped
        dsimp only at escaped
        cases silent : fault.message? with
        | some message =>
          rw [silent] at escaped
          cases escaped
        | none =>
          rw [silent] at escaped
          cases escaped
          exact unloadable_of_load read loaded silent
  · intro unloadable
    cases unloadable with
    | directory there =>
      rw [loading, configText_eq_error_iff.2 (.directory check_configFile there)]
    | scalar present broken => exact loading_of_silent present (load_of_unreadable broken) rfl
    | deep present broken => exact loading_of_silent present (load_of_unreadable broken) rfl
    | data present parsed misfit =>
      have silent := misfit.message?
      exact loading_of_silent present ((load_eq_error_iff parsed silent).2 misfit) silent

end loading

end MarkdownTree.Cli
