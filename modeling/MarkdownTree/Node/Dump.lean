import MarkdownTree.Node.Basic

/-!
# Dumping nodes

A node is written as an object: first its fields in the order in which `Node` declares them, then
its extras. Fields and extras that are null are left out, while null inside a field is kept.
-/

namespace MarkdownTree

namespace Node

/-- The members that are not null. -/
def presentMembers (fields : Fields) : Fields := fields.filter fun m => !m.2.isNull

/-- The fields of a node, given the value of its children; null stands for a field without a
value. -/
def members (n : Node) (children : Value) : Fields :=
  [("type", .string n.kind), ("children", children), ("value", .ofString? n.value),
    ("depth", .ofInt? n.depth), ("ordered", (n.ordered.map Value.bool).getD .null),
    ("start", .ofInt? n.start), ("identifier", .ofString? n.identifier),
    ("label", .ofString? n.label), ("title", .ofString? n.title), ("href", .ofString? n.href),
    ("src", .ofString? n.src), ("link", .ofString? n.link), ("alt", .ofString? n.alt),
    ("lang", .ofString? n.lang), ("align", (n.align.map Alignment.toValue).getD .null),
    ("checked", (n.checked.map Value.bool).getD .null), ("data", (n.data.map Value.object).getD .null),
    ("position", (n.position.map Value.object).getD .null)] ++ n.extras

/-- The value of a node. -/
def toValue (n : Node) : Value :=
  let children := n.childList.attach.map fun c => toValue c.1
  .object (presentMembers (n.members (if n.children.isSome then .list children else .null)))
termination_by sizeOf n
decreasing_by exact sizeOf_lt_of_mem c.2

theorem toValue_eq (n : Node) :
    n.toValue = .object (presentMembers (n.members
      (if n.children.isSome then .list (n.childList.map toValue) else .null))) := by
  rw [toValue, List.attach_map_val]

end Node

end MarkdownTree
