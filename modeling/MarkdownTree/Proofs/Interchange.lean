import MarkdownTree.Proofs.Decoration
import MarkdownTree.Proofs.Json.RoundTrip
import MarkdownTree.Proofs.Node.Reading
import Mathlib.Tactic.MkIffOfInductiveProp

/-!
# Trees as interchange

A tree that is printed as JSON can be read again. What comes back is `Node.reloaded`: the tree
without its null extras and with texts in place of the dates in its data. Printing that tree gives
the same text, and rendering it comes to the same, because only decoration has changed.

The argument has three parts. The value of a tree, with its dates spelled, is the value of the
reloaded tree (`spelled_toValue`); JSON text is read as the value it spells; and a tree whose extras
are proper is read from its value.
-/

namespace MarkdownTree

namespace Node

/-- A node whose data, position and extras can be written as JSON: they hold no floating-point
numbers, and dates stand in the data only. An extra does not have the name of a field. -/
@[mk_iff]
structure Interchangeable (n : Node) : Prop where
  data : ∀ ms ∈ n.data, ∀ m ∈ ms, m.2.Plain True
  position : ∀ ms ∈ n.position, ∀ m ∈ ms, m.2.Plain False
  extras : ∀ m ∈ n.extras, m.2.Plain False
  names : ∀ m ∈ n.extras, m.1 ∉ fieldNames

/-- The tree that is read when the tree was printed: null extras are gone, and the dates in its data
are texts. -/
def reloaded (n : Node) : Node :=
  { n with
    children := n.children.map fun _ => n.childList.attach.map fun c => reloaded c.1
    data := n.data.map (Value.spelledMembers Timestamp.text)
    extras := presentMembers n.extras }
termination_by sizeOf n
decreasing_by exact sizeOf_lt_of_mem c.2

/-- What is left of the decoration of a node when it is printed and read. -/
def Decoration.reloaded (d : Decoration) : Decoration :=
  { d with
    data := d.data.map (Value.spelledMembers Timestamp.text)
    extras := presentMembers d.extras }

theorem reloaded_eq (n : Node) :
    n.reloaded = (n.decorated n.decoration.reloaded).mapChildren reloaded := by
  rw [reloaded, map_children_attach]
  rfl

/-- Only decoration is changed. -/
theorem masking_reloaded : Masking Decoration.reloaded reloaded := masking_of_eq reloaded_eq rfl

@[simp] theorem childList_reloaded (n : Node) :
    n.reloaded.childList = n.childList.map reloaded := masking_reloaded.childList n

@[simp] theorem extras_reloaded (n : Node) : n.reloaded.extras = presentMembers n.extras := by
  rw [reloaded_eq]
  rfl

theorem Interchangeable.properExtras {n : Node} (h : n.Interchangeable) :
    n.reloaded.ProperExtras := by
  constructor <;> intro m member <;> rw [extras_reloaded] at member
  · exact h.names m (List.mem_filter.1 member).1
  · simpa using (List.mem_filter.1 member).2

/-! ### The value of a tree -/

section value

open Value

theorem spelledMembers_presentMembers (clock : Timestamp → String) (ms : Fields) :
    spelledMembers clock (presentMembers ms) = presentMembers (spelledMembers clock ms) := by
  rw [spelledMembers_eq_map, spelledMembers_eq_map, presentMembers, presentMembers,
    List.filter_map]
  simp [Function.comp_def]

theorem spelledMembers_of_plain (clock : Timestamp → String) {ms : Fields}
    (plain : ∀ m ∈ ms, m.2.Plain False) : spelledMembers clock ms = ms := by
  have same := (Plain.object plain).spelled_eq clock
  rw [spelled] at same
  exact Value.object.inj same

theorem plain_alignment (a : Alignment) : a.toValue.Plain False := by
  cases a with
  | single name => exact .string name
  | columns entries =>
    refine .list (List.forall_mem_map.2 fun s _ => ?_)
    cases s with
    | none => exact .null
    | some s => exact .string s

variable {n : Node} (h : n.Interchangeable) {children : Value}

include h

/-- All fields but the data are written without dates. -/
theorem spelledMembers_members (clock : Timestamp → String) :
    spelledMembers clock (n.members children) =
      ({ n with data := n.data.map (spelledMembers clock) } : Node).members
        (children.spelled clock) := by
  have text (s : Option String) : spelled clock (.ofString? s) = .ofString? s := by
    cases s <;> rfl
  have int (i : Option Int) : spelled clock (.ofInt? i) = .ofInt? i := by cases i <;> rfl
  have bool (b : Option Bool) : spelled clock ((b.map Value.bool).getD .null) =
      (b.map Value.bool).getD .null := by
    cases b <;> rfl
  have align : spelled clock ((n.align.map Alignment.toValue).getD .null) =
      (n.align.map Alignment.toValue).getD .null := by
    cases n.align with
    | none => rfl
    | some a => exact (plain_alignment a).spelled_eq clock
  have data : spelled clock ((n.data.map Value.object).getD .null) =
      ((n.data.map (spelledMembers clock)).map Value.object).getD .null := by
    cases n.data <;> rfl
  have position : spelled clock ((n.position.map Value.object).getD .null) =
      (n.position.map Value.object).getD .null := by
    cases place : n.position with
    | none => rfl
    | some ms => exact (Plain.object (h.position ms place)).spelled_eq clock
  have extras := spelledMembers_of_plain clock h.extras
  rw [spelledMembers_eq_map] at extras ⊢
  simp only [members, List.map_append, List.map_cons, List.map_nil, text, int, bool, align, data,
    position, extras]
  rfl

theorem plain_members (plain : children.Plain True) :
    ∀ m ∈ presentMembers (n.members children), m.2.Plain True := by
  have text (s : Option String) : (Value.ofString? s).Plain True := by
    cases s with
    | none => exact .null
    | some s => exact .string s
  have int (i : Option Int) : (Value.ofInt? i).Plain True := by
    cases i with
    | none => exact .null
    | some i => exact .int i
  have bool (b : Option Bool) : ((b.map Value.bool).getD .null).Plain True := by
    cases b with
    | none => exact .null
    | some b => exact .bool b
  have align : ((n.align.map Alignment.toValue).getD .null).Plain True := by
    cases n.align with
    | none => exact .null
    | some a => exact (plain_alignment a).mono False.elim
  have data : ((n.data.map Value.object).getD .null).Plain True := by
    cases there : n.data with
    | none => exact .null
    | some ms => exact .object (h.data ms there)
  have position : ((n.position.map Value.object).getD .null).Plain True := by
    cases there : n.position with
    | none => exact .null
    | some ms => exact (Plain.object (h.position ms there)).mono False.elim
  have extras : ∀ m ∈ n.extras, m.2.Plain True := fun m member =>
    (h.extras m member).mono False.elim
  intro m member
  have all : ∀ m ∈ n.members children, m.2.Plain True := by
    simp only [members, List.forall_mem_append, List.forall_mem_cons]
    simp only [text, int, bool, align, data, position, plain, Plain.string, true_and]
    exact ⟨nofun, extras⟩
  exact all m (List.mem_filter.1 member).1

end value

/-- A reloaded node is dumped like the node with its dates spelled: null extras are left out
anyway. -/
theorem presentMembers_reloaded (n : Node) (children : Value) :
    presentMembers (n.reloaded.members children) =
      presentMembers
        (({ n with data := n.data.map (Value.spelledMembers Timestamp.text) } : Node).members
          children) := by
  have fields : n.reloaded.fieldMembers children =
      ({ n with data := n.data.map (Value.spelledMembers Timestamp.text) } : Node).fieldMembers
        children := by
    rw [reloaded_eq]
    rfl
  rw [members_eq, members_eq, fields, extras_reloaded, presentMembers, presentMembers,
    presentMembers, List.filter_append, List.filter_append, List.filter_filter]
  simp only [Bool.and_self]

/-- The value of a tree, with its dates spelled, is the value of the reloaded tree. By induction on
the tree. -/
theorem spelled_toValue {n : Node} (h : ∀ m ∈ n.preorder, m.Interchangeable) :
    n.toValue.spelled Timestamp.text = n.reloaded.toValue := by
  induction n using induct with
  | step n ih =>
    rw [forall_mem_preorder_iff] at h
    have each : ∀ c ∈ n.childList, c.toValue.spelled Timestamp.text = c.reloaded.toValue := by
      intro c member
      exact ih c member (h.2 c member)
    have children : (if n.children.isSome then Value.list (n.childList.map toValue)
          else .null).spelled Timestamp.text =
        if n.reloaded.children.isSome then .list (n.reloaded.childList.map toValue) else .null := by
      have some : n.reloaded.children.isSome = n.children.isSome := by
        rw [reloaded_eq, mapChildren, Option.isSome_map]
        rfl
      rw [some, childList_reloaded]
      split
      · rw [Value.spelled, Value.spelledItems_eq_map, List.map_map, List.map_map]
        exact congrArg Value.list (List.map_congr_left each)
      · rfl
    rw [toValue_eq, toValue_eq, Value.spelled, spelledMembers_presentMembers,
      spelledMembers_members h.1, children, presentMembers_reloaded]

theorem plain_toValue {n : Node} (h : ∀ m ∈ n.preorder, m.Interchangeable) :
    n.toValue.Plain True := by
  induction n using induct with
  | step n ih =>
    rw [forall_mem_preorder_iff] at h
    rw [toValue_eq]
    refine .object (plain_members h.1 ?_)
    split
    · exact .list (List.forall_mem_map.2 fun c member => ih c member (h.2 c member))
    · exact .null

end Node

namespace Rendering

open Conversion

/-- A tree that is printed as JSON is read again as the reloaded tree: without null extras and with
texts in place of the dates in its data. It is printed in the same way, and rendered in the same
way unless an override computes props. -/
theorem printed_tree_reloads (n : Node) (h : ∀ m ∈ n.preorder, m.Interchangeable) :
    (∃ v, Json.parse? (Json.print Json.Style.tree n.toValue) = some v ∧
      Node.ofValue v = .accept n.reloaded) ∧
    Json.print Json.Style.tree n.reloaded.toValue = Json.print Json.Style.tree n.toValue ∧
    ∀ (settings : Settings) (overrides : Overrides) (stackLimit : Option Nat), overrides.Static →
      start (renderTree n.reloaded overrides settings stackLimit) =
        start (renderTree n overrides settings stackLimit) := by
  have value := Node.spelled_toValue h
  refine ⟨⟨n.reloaded.toValue, ?_, ?_⟩, ?_, ?_⟩
  · rw [Json.parse?_print Json.Style.tree (Node.plain_toValue h)]
    exact congrArg some value
  · apply Node.ofValue_toValue
    rw [Node.masking_reloaded.preorder, List.forall_mem_map]
    exact fun m member => (h m member).properExtras
  · rw [← value]
    exact Json.print_spelled Json.Style.tree n.toValue
  · intro settings overrides stackLimit static
    rw [renderTree_of_bare settings stackLimit static (Node.bare_of_eq Node.reloaded_eq n)]

/-- A document with a front matter block, an empty table and a paragraph with extras. -/
def archive (day : Value) (extras : Fields) : Node :=
  .branch "root" [
    { kind := "yaml", data := some [("day", day), ("list", .list [.null, .int (-1)])] },
    { Node.branch "table" [] with
      align := some (.columns [some "left", none])
      position := some [("start", .object [("line", .int 2)])] },
    { Node.branch "paragraph" [.leaf "text" "\"a\" & é"] with extras }]

/-- Paragraphs have a class. -/
def classedParagraphs : Overrides := [("paragraph", { props := [("class", .string "plain")] })]

theorem archive_reloads :
    let printed := archive (.date ⟨2024, 1, 2⟩) [("note", .null), ("tags", .list [.null])]
    let read := archive (.string "2024-01-02") [("tags", .list [.null])]
    (∀ m ∈ printed.preorder, m.Interchangeable) ∧ classedParagraphs.Static ∧
      (∃ v, Json.parse? (Json.print Json.Style.tree printed.toValue) = some v ∧
        Node.ofValue v = .accept read) ∧
      start (renderTree read classedParagraphs {}) =
        start (renderTree printed classedParagraphs {}) := by
  intro printed read
  have fit : ∀ m ∈ printed.preorder, m.Interchangeable := by
    simp [-Prod.forall, printed, archive, Node.preorder_eq, Node.childList,
      Node.branch, Node.leaf, Node.interchangeable_iff, Node.fieldNames]
  have static : classedParagraphs.Static := by
    intro kind o own
    simp only [classedParagraphs, Entries.get?] at own
    split at own
    · cases own
      rfl
    · cases own
  have day : Date.text ⟨2024, 1, 2⟩ = "2024-01-02" := by decide
  have reloaded : printed.reloaded = read := by
    simp [printed, read, archive, Node.reloaded_eq, Node.mapChildren, Node.decorated,
      Node.decoration, Node.Decoration.reloaded, Node.branch, Node.leaf, Node.presentMembers,
      Value.spelled, Value.spelledMembers, Value.spelledItems, Value.isNull, day]
  obtain ⟨reads, _, renders⟩ := printed_tree_reloads printed fit
  rw [reloaded] at reads renders
  exact ⟨fit, static, reads, renders {} classedParagraphs usualStackLimit static⟩

end Rendering

end MarkdownTree
