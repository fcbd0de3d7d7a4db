import MarkdownTree.Total
import MarkdownTree.Value.Basic

/-!
# Nodes

A document is a tree of nodes. The kind of a node is an open name, `paragraph` or `table` or one
that the library does not know; the other fields are optional, and a node keeps the fields it
does not know as extras. An absent list of children is not the same as an empty one.

`Node.size` counts the nodes of a tree, and `Node.induct` is the induction over it.
-/

namespace MarkdownTree

/-- The alignment of a table, one entry for each column, or that of a single cell. -/
inductive Alignment where
  | columns (entries : List (Option String))
  | single (name : String)
  deriving DecidableEq

/-- The value of an alignment. -/
def Alignment.toValue : Alignment → Value
  | .columns entries => .list (entries.map Value.ofString?)
  | .single name => .string name

/-- A node of a document. -/
structure Node where
  /-- The kind of the node. -/
  kind : String
  children : Option (List Node) := none
  /-- The text of a leaf. -/
  value : Option String := none
  /-- The level of a heading. -/
  depth : Option Int := none
  ordered : Option Bool := none
  /-- The number of the first item of an ordered list. -/
  start : Option Int := none
  /-- The key under which a definition or a footnote is looked up. -/
  identifier : Option String := none
  label : Option String := none
  title : Option String := none
  href : Option String := none
  src : Option String := none
  /-- The target of a definition. -/
  link : Option String := none
  alt : Option String := none
  lang : Option String := none
  align : Option Alignment := none
  /-- Whether a task is done; absent for an item that is not a task. -/
  checked : Option Bool := none
  /-- The contents of a front matter block. -/
  data : Option Fields := none
  /-- The place in the source. -/
  position : Option Fields := none
  /-- Fields of other names. -/
  extras : Fields := []
  deriving Inhabited

namespace Node

/-- The node with a value and nothing else. -/
def leaf (kind value : String) : Node := { kind, value := some value }

/-- The node with children and nothing else. -/
def branch (kind : String) (children : List Node) : Node := { kind, children := some children }

/-- The children of a node, none if they are absent. -/
def childList (n : Node) : List Node := n.children.getD []

/-- The node with other children. -/
def withChildren (n : Node) (cs : List Node) : Node := { n with children := some cs }

@[simp] theorem childList_withChildren (n : Node) (cs : List Node) :
    (n.withChildren cs).childList = cs := rfl

@[simp] theorem kind_withChildren (n : Node) (cs : List Node) :
    (n.withChildren cs).kind = n.kind := rfl

@[simp] theorem value_withChildren (n : Node) (cs : List Node) :
    (n.withChildren cs).value = n.value := rfl

@[simp] theorem withChildren_withChildren (n : Node) (cs ds : List Node) :
    (n.withChildren cs).withChildren ds = n.withChildren ds := rfl

theorem sizeOf_lt_of_mem {n c : Node} (h : c ∈ n.childList) : sizeOf c < sizeOf n := by
  obtain ⟨kind, children⟩ := n
  cases children with
  | none => simp [childList] at h
  | some cs =>
    have h₁ := List.sizeOf_lt_of_mem (show c ∈ cs from h)
    simp only [Node.mk.sizeOf_spec, Option.some.sizeOf_spec]
    omega

/-- A property of all nodes holds if it holds of a node whenever it holds of its children. -/
theorem induct {P : Node → Prop} (step : ∀ n, (∀ c ∈ n.childList, P c) → P n) (n : Node) : P n :=
  step n fun c _ => induct step c
termination_by sizeOf n
decreasing_by exact sizeOf_lt_of_mem ‹_›

/-- The number of nodes of a tree. -/
def size (n : Node) : Nat := 1 + total (n.childList.attach.map fun c => size c.1)
termination_by sizeOf n
decreasing_by exact sizeOf_lt_of_mem c.2

theorem size_eq (n : Node) : n.size = 1 + total (n.childList.map size) := by
  rw [size, List.attach_map_val]

/-- The number of nodes from a node down to its deepest descendant. -/
def height (n : Node) : Nat := 1 + greatest (n.childList.attach.map fun c => height c.1)
termination_by sizeOf n
decreasing_by exact sizeOf_lt_of_mem c.2

end Node

end MarkdownTree
