import MarkdownTree.Proofs.Node.Masking

/-!
# The places of definitions

A definition is found under its identifier, wherever it stands. `Node.blanked` forgets which
definition stands where: it puts a blank in the place of every definition without children and
keeps everything else, so two trees with the same blanks differ in these definitions only. It is a
masking that leaves all decoration as it is.
-/

namespace MarkdownTree.Node

/-- A definition of which only the place is left. -/
def blank : Node := { kind := "definition" }

/-- The tree with a blank in the place of every definition without children. -/
def blanked (n : Node) : Node :=
  if n.isLeafDefinition then blank
  else { n with children := n.children.map fun _ => n.childList.attach.map fun c => blanked c.1 }
termination_by sizeOf n
decreasing_by exact sizeOf_lt_of_mem c.2

/-- The definitions without children in a tree, in order. -/
def leafDefinitions (n : Node) : List Node := n.preorder.filter isLeafDefinition

/-- The same definitions without children stand at the same places in any order, and nothing else
has changed. -/
structure Rearranged (n n' : Node) : Prop where
  places : n'.blanked = n.blanked
  definitions : n'.leafDefinitions.Perm n.leafDefinitions

variable {n : Node}

theorem blanked_of_leaf (h : n.isLeafDefinition = true) : n.blanked = blank := by
  rw [blanked, if_pos h]

theorem blanked_of_not_leaf (h : n.isLeafDefinition = false) :
    n.blanked = { n with children := n.children.map (List.map blanked) } := by
  rw [blanked, if_neg (by simp [h]), map_children_attach]

theorem masking_blanked : Masking id blanked where
  redecorate_empty := rfl
  leaf h := by
    rw [blanked_of_leaf h]
    rfl
  eq h := blanked_of_not_leaf h

end MarkdownTree.Node
