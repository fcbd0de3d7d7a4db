import MarkdownTree.Value.Basic

/-!
# Values that have a text form

Null, truth values, integers and texts have exact text forms, and so have lists and objects of
them. Dates have one too, but what is read back is their text: `Value.spelled` puts the texts of
dates in their place. `Value.Plain` describes these values, with or without dates.
-/

namespace MarkdownTree

namespace Value

mutual

/-- The value with texts in place of dates; `clock` gives those of points in time. -/
def spelled (clock : Timestamp → String) : Value → Value
  | .date d => .string d.text
  | .timestamp t => .string (clock t)
  | .list items => .list (spelledItems clock items)
  | .object members => .object (spelledMembers clock members)
  | v => v

/-- The items of a list with texts in place of dates. -/
def spelledItems (clock : Timestamp → String) : List Value → List Value
  | [] => []
  | v :: vs => spelled clock v :: spelledItems clock vs

/-- The members of an object with texts in place of dates. -/
def spelledMembers (clock : Timestamp → String) : List (String × Value) → List (String × Value)
  | [] => []
  | (k, v) :: ms => (k, spelled clock v) :: spelledMembers clock ms

end

variable {clock : Timestamp → String}

theorem spelledItems_eq_map (vs : List Value) : spelledItems clock vs = vs.map (spelled clock) := by
  induction vs with
  | nil => rfl
  | cons v vs ih => rw [spelledItems, ih, List.map_cons]

theorem spelledMembers_eq_map (ms : Fields) :
    spelledMembers clock ms = ms.map fun m => (m.1, spelled clock m.2) := by
  induction ms with
  | nil => rfl
  | cons m ms ih => rw [spelledMembers, ih, List.map_cons]

@[simp] theorem isNull_spelled (v : Value) : (spelled clock v).isNull = v.isNull := by
  cases v <;> rfl

/-- Null, truth values, integers, texts, lists and objects of these, and dates if `dated`. There is
no floating-point number in it. -/
inductive Plain (dated : Prop) : Value → Prop
  | null : Plain dated .null
  | bool (b : Bool) : Plain dated (.bool b)
  | int (n : Int) : Plain dated (.int n)
  | string (s : String) : Plain dated (.string s)
  | date (allowed : dated) (d : Date) : Plain dated (.date d)
  | timestamp (allowed : dated) (t : Timestamp) : Plain dated (.timestamp t)
  | list {vs : List Value} (each : ∀ v ∈ vs, Plain dated v) : Plain dated (.list vs)
  | object {ms : Fields} (each : ∀ m ∈ ms, Plain dated m.2) : Plain dated (.object ms)

namespace Plain

attribute [simp] null bool int string

@[simp] theorem date_iff {dated : Prop} {d : Date} : Plain dated (.date d) ↔ dated :=
  ⟨fun | .date allowed _ => allowed, fun allowed => .date allowed d⟩

@[simp] theorem timestamp_iff {dated : Prop} {t : Timestamp} : Plain dated (.timestamp t) ↔ dated :=
  ⟨fun | .timestamp allowed _ => allowed, fun allowed => .timestamp allowed t⟩

@[simp] theorem list_iff {dated : Prop} {vs : List Value} :
    Plain dated (.list vs) ↔ ∀ v ∈ vs, Plain dated v :=
  ⟨fun | .list each => each, .list⟩

@[simp] theorem object_iff {dated : Prop} {ms : Fields} :
    Plain dated (.object ms) ↔ ∀ m ∈ ms, Plain dated m.2 :=
  ⟨fun | .object each => each, .object⟩

end Plain

theorem Plain.mono {dated dated' : Prop} {v : Value} (h : Plain dated v) (weaken : dated → dated') :
    Plain dated' v := by
  induction h with
  | null => exact .null
  | bool b => exact .bool b
  | int n => exact .int n
  | string s => exact .string s
  | date allowed d => exact .date (weaken allowed) d
  | timestamp allowed t => exact .timestamp (weaken allowed) t
  | list _ ih => exact .list ih
  | object _ ih => exact .object ih

/-- Nothing is put in the place of anything where there are no dates. -/
theorem Plain.spelled_eq {v : Value} (h : Plain False v) (clock : Timestamp → String) :
    spelled clock v = v := by
  induction h with
  | null | bool | int | string => rfl
  | date allowed | timestamp allowed => exact allowed.elim
  | list _ ih =>
    rw [spelled, spelledItems_eq_map, List.map_congr_left ih, List.map_id']
  | object _ ih =>
    have same : ∀ m ∈ _, (m.1, spelled clock m.2) = m := fun m member => by rw [ih m member]
    rw [spelled, spelledMembers_eq_map, List.map_congr_left same, List.map_id']

end Value

end MarkdownTree
