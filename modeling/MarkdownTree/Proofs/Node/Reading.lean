import MarkdownTree.Node.Dump
import MarkdownTree.Node.Reading
import MarkdownTree.Proofs.Entries
import MarkdownTree.Walk

/-!
# Reading dumped nodes

A node that was dumped is read as it was, if its extras are not null and have names of their own.
Each field is found under its name: the names of the fields differ, and what is left out because it
is null is read as absent. A field is read by the check that belongs to how it is written, so the
fields of all kinds go through one lemma (`optional_of_written`).

`ofValue_toValue` is an induction on the tree.
-/

namespace MarkdownTree

namespace Check

variable {α : Type} {check : Value → Check α} {write : α → Value}

/-- What is written for a value of a field is accepted as that value, and is not null. -/
def Reads (check : Value → Check α) (write : α → Value) : Prop :=
  ∀ a, (write a).isNull = false ∧ check (write a) = .accept a

theorem nullable_of_not_null {v : Value} (h : v.isNull = false) :
    nullable check v = (check v).map some := by
  cases v with
  | null => cases h
  | _ => rfl

theorem reads_text : Reads text .string := fun _ => ⟨rfl, rfl⟩

theorem reads_integer : Reads integer .int := fun _ => ⟨rfl, rfl⟩

theorem reads_boolean : Reads boolean .bool := fun _ => ⟨rfl, rfl⟩

theorem reads_mapping : Reads mapping .object := fun _ => ⟨rfl, rfl⟩

theorem nullable_ofString? (s : Option String) :
    nullable text (.ofString? s) = .accept s := by
  cases s <;> rfl

theorem itemsFrom_of_reads {β : Type} {check : Value → Check β} {write : β → Value} (bs : List β)
    (reads : ∀ b ∈ bs, check (write b) = .accept b) (i : Nat) :
    itemsFrom check i (bs.map write) = .accept bs := by
  induction bs generalizing i with
  | nil => rfl
  | cons b bs ih =>
    have first := reads b List.mem_cons_self
    have others := ih (fun d member => reads d (List.mem_cons_of_mem b member)) (i + 1)
    rw [List.map_cons, itemsFrom, first, others]
    rfl

/-- A field is read as it was written; if it was left out, it is read as absent. -/
theorem optional_of_written (reads : Reads check write) {fields : Fields} {name : String}
    {a? : Option α} (found : Entries.get? fields name = a?.map write) :
    optional fields name check = .accept a? := by
  rw [optional, found]
  cases a? with
  | none => rfl
  | some a =>
    obtain ⟨present, read⟩ := reads a
    simp only [Option.map_some, nullable_of_not_null present, read, map_accept, within_accept]

end Check

namespace Node

open Check

theorem reads_alignment : Reads readAlignment Alignment.toValue := by
  intro a
  cases a with
  | single name => exact ⟨rfl, rfl⟩
  | columns entries =>
    have items := itemsFrom_of_reads entries (fun s _ => nullable_ofString? s) 0
    refine ⟨rfl, ?_⟩
    rw [readAlignment, Alignment.toValue, listOf, items]
    rfl

/-! ### Members that are present -/

/-- A member whose name is not repeated is found if it is not null. -/
theorem get?_presentMembers {ms : Fields} (distinct : (Entries.keys ms).Nodup) (name : String) :
    Entries.get? (presentMembers ms) name =
      (Entries.get? ms name).filter fun v => !v.isNull := by
  induction ms with
  | nil => rfl
  | cons m ms ih =>
    obtain ⟨k, v⟩ := m
    rw [Entries.keys_cons, List.nodup_cons] at distinct
    have others := ih distinct.2
    unfold presentMembers at others ⊢
    cases null : v.isNull with
    | true =>
      rw [List.filter_cons_of_neg (by simp [null]), others, Entries.get?_cons]
      split
      · next same =>
        have absent : Entries.get? ms name = none := Entries.get?_eq_none_iff.2 (same ▸ distinct.1)
        simp [absent, Option.filter, null]
      · rfl
    | false =>
      rw [List.filter_cons_of_pos (by simp [null]), Entries.get?_cons, Entries.get?_cons]
      split
      · simp [Option.filter, null]
      · exact others

theorem get?_append_of_notMem {ms es : Fields} {name : String}
    (absent : name ∉ Entries.keys es) :
    Entries.get? (ms ++ es) name = Entries.get? ms name := by
  induction ms with
  | nil => exact Entries.get?_eq_none_iff.2 absent
  | cons m ms ih => rw [List.cons_append, Entries.get?_cons, Entries.get?_cons, ih]

/-! ### Fields -/

/-- The members of a node without its extras. -/
def fieldMembers (n : Node) (children : Value) : Fields :=
  ({ n with extras := [] } : Node).members children

theorem members_eq (n : Node) (children : Value) :
    n.members children = n.fieldMembers children ++ n.extras := by
  simp only [fieldMembers, members, List.append_nil]

theorem keys_fieldMembers (n : Node) (children : Value) :
    Entries.keys (n.fieldMembers children) = fieldNames := rfl

theorem nodup_fieldNames : fieldNames.Nodup := by decide

/-- The names of the extras of a node are not those of its fields, and none of them is null. -/
structure ProperExtras (n : Node) : Prop where
  name_notMem : ∀ m ∈ n.extras, m.1 ∉ fieldNames
  isNull_eq : ∀ m ∈ n.extras, m.2.isNull = false

section fields

variable {n : Node} (proper : n.ProperExtras) {children : Value}

include proper

/-- A field is found as it was written, unless it is null. -/
theorem get?_members {name : String} (known : name ∈ fieldNames) :
    Entries.get? (presentMembers (n.members children)) name =
      (Entries.get? (n.fieldMembers children) name).filter fun v => !v.isNull := by
  have absent : name ∉ Entries.keys (presentMembers n.extras) := by
    intro member
    obtain ⟨m, present, rfl⟩ := List.mem_map.1 member
    exact proper.name_notMem m (List.mem_filter.1 present).1 known
  have distinct : (Entries.keys (n.fieldMembers children)).Nodup := nodup_fieldNames
  rw [members_eq, presentMembers, List.filter_append, ← presentMembers, ← presentMembers,
    get?_append_of_notMem absent, get?_presentMembers distinct]

theorem optional_members {α : Type} {check : Value → Check α} {write : α → Value}
    (reads : Reads check write) {name : String} (known : name ∈ fieldNames) {a? : Option α}
    (found : Entries.get? (n.fieldMembers children) name = some ((a?.map write).getD .null)) :
    optional (presentMembers (n.members children)) name check = .accept a? := by
  apply optional_of_written reads
  rw [get?_members proper known, found]
  cases a? with
  | none => rfl
  | some a => simp [Option.filter, (reads a).1]

theorem extrasOf_members : extrasOf (presentMembers (n.members children)) = n.extras := by
  have fields : extrasOf (presentMembers (n.fieldMembers children)) = [] := by
    apply List.filter_eq_nil_iff.2
    intro m member
    have known : m.1 ∈ fieldNames := by
      rw [← keys_fieldMembers n children]
      exact List.mem_map_of_mem (List.mem_filter.1 member).1
    simp [known]
  have present : presentMembers n.extras = n.extras := by
    apply List.filter_eq_self.2
    intro m member
    rw [proper.isNull_eq m member]
    rfl
  have unknown : extrasOf n.extras = n.extras := by
    apply List.filter_eq_self.2
    intro m member
    simpa using proper.name_notMem m member
  rw [members_eq, presentMembers, List.filter_append, ← presentMembers, ← presentMembers, present,
    extrasOf, List.filter_append, ← extrasOf, ← extrasOf, fields, unknown, List.nil_append]

/-- All fields but the children are read as they were written. -/
theorem assemble_members :
    assemble (presentMembers (n.members children)) (.accept n.children) = .accept n := by
  have kind : required (presentMembers (n.members children)) "type" Check.text =
      .accept n.kind := by
    rw [required, get?_members proper (by decide)]
    rfl
  have field {α : Type} {check : Value → Check α} {write : α → Value}
      (reads : Reads check write) (name : String) (a? : Option α)
      (known : name ∈ fieldNames)
      (found : Entries.get? (n.fieldMembers children) name = some ((a?.map write).getD .null)) :
      optional (presentMembers (n.members children)) name check = .accept a? :=
    optional_members proper reads known found
  rw [assemble, kind, field reads_text "value" n.value (by decide) rfl,
    field reads_integer "depth" n.depth (by decide) rfl,
    field reads_boolean "ordered" n.ordered (by decide) rfl,
    field reads_integer "start" n.start (by decide) rfl,
    field reads_text "identifier" n.identifier (by decide) rfl,
    field reads_text "label" n.label (by decide) rfl,
    field reads_text "title" n.title (by decide) rfl,
    field reads_text "href" n.href (by decide) rfl,
    field reads_text "src" n.src (by decide) rfl,
    field reads_text "link" n.link (by decide) rfl,
    field reads_text "alt" n.alt (by decide) rfl,
    field reads_text "lang" n.lang (by decide) rfl,
    field reads_alignment "align" n.align (by decide) rfl,
    field reads_boolean "checked" n.checked (by decide) rfl,
    field reads_mapping "data" n.data (by decide) rfl,
    field reads_mapping "position" n.position (by decide) rfl,
    extrasOf_members proper]
  cases n
  rfl

end fields

/-! ### Children -/

theorem readChildren_eq (fields : Fields) :
    readChildren fields = match Entries.get? fields "children" with
      | none => .accept none
      | some v => (readChildList v).within "children" := by
  induction fields with
  | nil => rfl
  | cons m fields ih =>
    obtain ⟨name, v⟩ := m
    rw [readChildren, Entries.get?_cons]
    split
    · rfl
    · exact ih

theorem readItems_map_toValue {cs : List Node}
    (each : ∀ c ∈ cs, ofValue c.toValue = .accept c) (i : Nat) :
    readItems i (cs.map toValue) = .accept cs := by
  induction cs generalizing i with
  | nil => rfl
  | cons c cs ih =>
    have first := each c List.mem_cons_self
    have others := ih (fun d member => each d (List.mem_cons_of_mem c member)) (i + 1)
    rw [List.map_cons, readItems, first, others]
    rfl

/-- A dumped node is read as it was. By induction on the tree. -/
theorem ofValue_toValue {n : Node} (proper : ∀ m ∈ n.preorder, m.ProperExtras) :
    ofValue n.toValue = .accept n := by
  induction n using induct with
  | step n ih =>
    rw [forall_mem_preorder_iff] at proper
    have each : ∀ c ∈ n.childList, ofValue c.toValue = .accept c := by
      intro c member
      exact ih c member (proper.2 c member)
    have children : readChildren (presentMembers (n.members
        (if n.children.isSome then .list (n.childList.map toValue) else .null))) =
        .accept n.children := by
      rw [readChildren_eq, get?_members proper.1 (by decide)]
      have found (v : Value) : Entries.get? (n.fieldMembers v) "children" = some v := rfl
      rw [found]
      cases present : n.children with
      | none => rfl
      | some cs =>
        have same : n.childList = cs := by rw [childList, present, Option.getD_some]
        rw [same] at each ⊢
        have read := readItems_map_toValue each 0
        simp [Option.filter, Value.isNull, readChildList, read]
    rw [toValue_eq, ofValue, children, assemble_members proper.1]

end Node

end MarkdownTree
