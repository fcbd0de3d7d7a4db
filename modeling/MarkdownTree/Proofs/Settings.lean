import MarkdownTree.Settings
import Mathlib.Tactic.Basic

/-!
# Which fields make settings

Every field is checked on its own, by a check that gives at most one reason. Settings are therefore
refused if and only if a field has a value that does not suit it, and the reasons stand at exactly
these fields (`ofFields_refusesAt`). Members of other names are not looked at (`ofFields_congr`).
-/

namespace MarkdownTree

namespace Check

variable {α β : Type} {c : Check α} {P Q : List String → Prop}

/-- The check accepts unless some place is at fault, and its reasons stand at the places that
are. -/
structure RefusesAt (c : Check α) (P : List String → Prop) : Prop where
  accepts_iff : (∃ a, c = .accept a) ↔ ∀ path, ¬ P path
  located_iff : ∀ path, (∃ r ∈ c.reasons, r.path = path) ↔ P path

namespace RefusesAt

theorem congr (h : c.RefusesAt P) (same : ∀ path, P path ↔ Q path) : c.RefusesAt Q := by
  obtain rfl : P = Q := funext fun path => propext (same path)
  exact h

protected theorem map (f : α → β) (h : c.RefusesAt P) : (c.map f).RefusesAt P := by
  cases c with
  | accept a => exact ⟨by simpa using h.accepts_iff, h.located_iff⟩
  | refuse rs => exact ⟨by simpa [Check.map] using h.accepts_iff, h.located_iff⟩

/-- The reasons of both sides are kept. -/
protected theorem seq {f : Check (α → β)} (hf : f.RefusesAt P) (hc : c.RefusesAt Q) :
    (f.seq fun _ => c).RefusesAt fun path => P path ∨ Q path := by
  have faulty (path : List String) : (∃ r ∈ (f.seq fun _ => c).reasons, r.path = path) ↔
      P path ∨ Q path := by
    rw [← hf.located_iff, ← hc.located_iff]
    cases f <;> cases c <;> simp [Check.seq, reasons, or_and_right, exists_or]
  refine ⟨?_, faulty⟩
  simp only [not_or, forall_and, ← hf.accepts_iff, ← hc.accepts_iff]
  cases f <;> cases c <;> simp [Check.seq]

theorem refuses_iff (h : c.RefusesAt P) : (∃ rs, c = .refuse rs) ↔ ∃ path, P path := by
  have accepts := h.accepts_iff
  cases c with
  | accept a => simpa using accepts
  | refuse rs => simpa using accepts

end RefusesAt

/-- The check accepts, or gives one reason, at the value itself. -/
def Single (c : Check α) : Prop := (∃ a, c = .accept a) ∨ ∃ fault, c = .fail fault

theorem single_accept (a : α) : Single (.accept a) := .inl ⟨a, rfl⟩

theorem single_fail (fault : Fault) : Single (.fail fault : Check α) := .inr ⟨fault, rfl⟩

theorem Single.bind {f : α → Check β} (h : c.Single) (hf : ∀ a, (f a).Single) :
    (c.bind f).Single := by
  obtain ⟨a, rfl⟩ | ⟨fault, rfl⟩ := h
  · exact hf a
  · exact .inr ⟨fault, rfl⟩

theorem single_text (v : Value) : (Check.text v).Single := by
  cases v <;> first | exact single_accept _ | exact single_fail _

theorem single_integer (v : Value) : (Check.integer v).Single := by
  unfold Check.integer
  repeat' split
  all_goals first | exact single_accept _ | exact single_fail _

theorem single_boolean (v : Value) : (Check.boolean v).Single := by
  unfold Check.boolean
  repeat' split
  all_goals first | exact single_accept _ | exact single_fail _

/-- A field with a default is at fault if it has a value that its check does not accept. -/
theorem refusesAt_defaulting {fields : Fields} {name : String} {default : α}
    {check : Value → Check α} (single : ∀ v, (check v).Single) :
    (defaulting fields name default check).RefusesAt fun path =>
      path = [name] ∧ ∃ v, Entries.get? fields name = some v ∧ ¬ ∃ a, check v = .accept a := by
  unfold defaulting
  cases Entries.get? fields name with
  | none => exact ⟨by simp, by simp [reasons]⟩
  | some v =>
    obtain ⟨a, accepted⟩ | ⟨fault, refused⟩ := single v
    · exact ⟨by simp [accepted], by simp [accepted, reasons]⟩
    · refine ⟨by simp [refused, Check.fail, within], fun path => ?_⟩
      simp [refused, Check.fail, within, reasons, eq_comm]

end Check

namespace Settings

variable {fields fields' : Fields} {v : Value}

/-- A value that a field can have. -/
def Suits : String → Value → Prop
  | "position", v | "strict_references", v => ∃ b, Check.boolean v = .accept b
  | "max_depth", v => ∃ n, Check.integer v = .accept n ∧ 0 < n
  | "output_format", v => v = .string "json" ∨ v = .string "html"
  | _, v => ∃ s, v = .string s

/-- The field is given, with a value that it cannot have. -/
def Unfit (field : String) (raw : Option Value) : Prop := ∃ v, raw = some v ∧ ¬ Suits field v

/-! ### The checks of the fields -/

theorem accepts_text_iff : (∃ s, Check.text v = .accept s) ↔ ∃ s, v = .string s := by
  cases v <;> simp [Check.text, Check.fail]

theorem single_readLimit (v : Value) : (readLimit v).Single := by
  refine (Check.single_integer v).bind fun n => ?_
  split
  · exact Check.single_accept _
  · exact Check.single_fail _

theorem accepts_readLimit_iff :
    (∃ n, readLimit v = .accept n) ↔ ∃ n, Check.integer v = .accept n ∧ 0 < n := by
  unfold readLimit
  obtain ⟨n, accepted⟩ | ⟨fault, refused⟩ := Check.single_integer v
  · rw [accepted, Check.bind_accept]
    by_cases positive : 0 < n
    · have : 0 < n.toNat := by omega
      simp [this, positive]
    · have : ¬ 0 < n.toNat := by omega
      simp [this, positive, Check.fail]
  · simp [refused, Check.bind, Check.fail]

theorem single_readFormat (v : Value) : (readFormat v).Single := by
  refine (Check.single_text v).bind fun s => ?_
  repeat' split
  · exact Check.single_accept _
  · exact Check.single_accept _
  · exact Check.single_fail _

theorem accepts_readFormat_iff :
    (∃ f, readFormat v = .accept f) ↔ v = .string "json" ∨ v = .string "html" := by
  cases v with
  | string s =>
    by_cases json : s = "json"
    · simp [readFormat, Check.text, json]
    · by_cases html : s = "html"
      · simp [readFormat, Check.text, html]
      · simp [readFormat, Check.text, json, html, Check.fail]
  | _ => simp [readFormat, Check.text, Check.bind, Check.fail]

/-! ### All fields -/

theorem refusesAt_field {α : Type} (fields : Fields) (name : String) (default : α)
    {check : Value → Check α} (single : ∀ v, (check v).Single)
    (accepts : ∀ v, (∃ a, check v = .accept a) ↔ Suits name v) :
    (Check.defaulting fields name default check).RefusesAt fun path =>
      path = [name] ∧ Unfit name (Entries.get? fields name) :=
  (Check.refusesAt_defaulting single).congr fun path => by simp only [Unfit, accepts]

theorem ofFields_refusesAt (fields : Fields) :
    (ofFields fields).RefusesAt fun path =>
      ∃ field ∈ fieldNames, path = [field] ∧ Unfit field (Entries.get? fields field) := by
  have text (name default : String) (kind : ∀ v, Suits name v ↔ ∃ s, v = .string s) :=
    refusesAt_field fields name default Check.single_text fun v =>
      accepts_text_iff.trans (kind v).symm
  have flag (name : String) (kind : ∀ v, Suits name v ↔ ∃ b, Check.boolean v = .accept b) :=
    refusesAt_field fields name false Check.single_boolean fun v => (kind v).symm
  have appName := text "app_name" "mdvdom" fun _ => Iff.rfl
  have parserConfig := text "parser_config" "gfm-like" fun _ => Iff.rfl
  have position := flag "position" fun _ => Iff.rfl
  have maxDepth := refusesAt_field fields "max_depth" ⟨200, by decide⟩ single_readLimit
    fun _ => accepts_readLimit_iff
  have strictReferences := flag "strict_references" fun _ => Iff.rfl
  have footnotesTag := text "footnotes_tag" "footer" fun _ => Iff.rfl
  have outputDir := text "output_dir" "dist" fun _ => Iff.rfl
  have outputFormat := refusesAt_field fields "output_format" .json single_readFormat
    fun _ => accepts_readFormat_iff
  refine Check.RefusesAt.congr ((((((((appName.map _).seq parserConfig).seq position).seq
    maxDepth).seq strictReferences).seq footnotesTag).seq outputDir).seq outputFormat) fun path => ?_
  simp only [fieldNames, List.mem_cons, List.not_mem_nil, or_false, exists_eq_or_imp, exists_eq_left,
    or_assoc]

/-- Settings depend on what is found under the names of fields, and on nothing else. -/
theorem ofFields_congr
    (same : ∀ field ∈ fieldNames, Entries.get? fields field = Entries.get? fields' field) :
    ofFields fields = ofFields fields' := by
  have each {α : Type} {name : String} (known : name ∈ fieldNames) (default : α)
      (check : Value → Check α) :
      Check.defaulting fields name default check = Check.defaulting fields' name default check := by
    rw [Check.defaulting, Check.defaulting, same name known]
  unfold ofFields
  simp (disch := decide) only [each]

end Settings

end MarkdownTree
