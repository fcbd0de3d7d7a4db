import MarkdownTree.Conversion.Tags
import MarkdownTree.Conversion.Weight
import Mathlib.Data.List.Fold

/-!
# The depth that a node needs

`Node.need` is how many nodes a conversion of a node has to be inside of at once, given by the tree
alone. A text needs nothing, a node that hides its children needs itself only, and every other node
needs one more than the deepest of the children that are rendered in its place.
-/

namespace MarkdownTree

theorem foldl_max_eq_greatest (ns : List Nat) : ns.foldl max 0 = greatest ns := List.foldl_eq_foldr

theorem greatest_map_mono {f g : α → Nat} {l : List α} (h : ∀ a ∈ l, f a ≤ g a) :
    greatest (l.map f) ≤ greatest (l.map g) := by
  rw [greatest_le_iff, List.forall_mem_map]
  intro a member
  have below : g a ≤ greatest (l.map g) :=
    greatest_le_iff.1 (Nat.le_refl _) _ (List.mem_map_of_mem member)
  exact Nat.le_trans (h a member) below

namespace Node

/-- The depth that the conversion of a node needs. -/
def need (n : Node) : Nat :=
  if n.isText then 0
  else if n.kind = "code" || n.kind = "html" || n.isUnrendered then 1
  else if n.kind = "listItem" && n.checked.isSome then
    1 + greatest (n.childList.attach.map fun c => need c.1)
  else if n.value.isSome then 1
  else if n.kind = "footnoteReference" then 2
  else 1 + greatest (n.rewritten.childList.attach.map fun c => need c.1)
termination_by n.weight
decreasing_by
  · exact weight_lt_of_mem c.2
  · exact weight_lt_of_mem_rewritten c.2

/-- The depth that the conversion of several nodes needs. -/
def needOfAll (l : List Node) : Nat := greatest (l.map need)

@[simp] theorem needOfAll_nil : needOfAll [] = 0 := rfl

@[simp] theorem needOfAll_cons (n : Node) (l : List Node) :
    needOfAll (n :: l) = max n.need (needOfAll l) := rfl

theorem needOfAll_le_iff {l : List Node} {k : Nat} : needOfAll l ≤ k ↔ ∀ n ∈ l, n.need ≤ k := by
  rw [needOfAll, greatest_le_iff, List.forall_mem_map]

theorem need_eq (n : Node) :
    n.need =
      if n.isText then 0
      else if n.kind = "code" || n.kind = "html" || n.isUnrendered then 1
      else if n.kind = "listItem" && n.checked.isSome then 1 + needOfAll n.childList
      else if n.value.isSome then 1
      else if n.kind = "footnoteReference" then 2
      else 1 + needOfAll n.rewritten.childList := by
  rw [need, List.attach_map_val, List.attach_map_val]
  rfl

theorem need_of_isText {n : Node} (h : n.isText = true) : n.need = 0 := by
  rw [need_eq, if_pos h]

theorem need_of_hidden {n : Node} (text : n.isText = false)
    (h : n.kind = "code" ∨ n.kind = "html" ∨ n.isUnrendered = true) : n.need = 1 := by
  rw [need_eq, if_neg (by simp [text]), if_pos (by simpa [or_assoc] using h)]

theorem need_of_task {n : Node} (h : n.kind = "listItem") (task : n.checked.isSome = true) :
    n.need = 1 + needOfAll n.childList := by
  rw [need_eq, if_neg (by simp [isText, h]), if_neg (by simp [isUnrendered, h]),
    if_pos (by simp [h, task])]

/-- What the content of a node needs, which is its value or else its children. -/
def contentNeed (n : Node) : Nat := if n.value.isSome then 0 else needOfAll n.childList

theorem need_footnoteMark (n : Node) : n.footnoteMark.need = 1 := by
  have plain : n.footnoteMark.rewritten = n.footnoteMark := rfl
  rw [need_eq, if_neg (by simp [footnoteMark, isText]),
    if_neg (by simp [footnoteMark, isUnrendered]), if_neg (by simp [footnoteMark]), plain]
  cases n.identifier <;> simp [footnoteMark, childList]

end Node

end MarkdownTree
