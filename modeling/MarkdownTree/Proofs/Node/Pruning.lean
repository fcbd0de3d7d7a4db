import MarkdownTree.Proofs.Node.Depth
import MarkdownTree.Proofs.Node.Masking

/-!
# Pruning what is never rendered

A node that has a value shows it in the place of its children, and some kinds of nodes show no
children at all. `Node.pruned` takes the children of these nodes away, everywhere in a tree. Two
trees with the same pruned tree differ in nothing but the children that such nodes hold.

Rewriting keeps the two apart: where it searches the children that are never rendered for cells,
what it does to them is pruned as well (`pruned_alignCells`), so the children of a rewritten node
are pruned like those of the node (`childList_rewritten_pruned`). All that is lost with them is
some of the depth to which the search goes (`groupingDepth_pruned_le`).
-/

namespace MarkdownTree.Node

/-- A node whose children are never rendered: those of a text, of code, of raw HTML, of a footnote
reference, of a node that is not rendered itself, and of a node with a value. A task is rendered
with its children, whatever its value is. -/
def hidesChildren (n : Node) : Bool :=
  n.isText || n.isUnrendered || n.kind = "code" || n.kind = "html" ||
    n.kind = "footnoteReference" || n.value.isSome && !(n.kind = "listItem" && n.checked.isSome)

/-- The tree without the children that are never rendered. -/
def pruned (n : Node) : Node :=
  if n.hidesChildren then n.withChildren []
  else { n with children := n.children.map fun _ => n.childList.attach.map fun c => pruned c.1 }
termination_by sizeOf n
decreasing_by exact sizeOf_lt_of_mem c.2

variable {n c : Node} {cs : List Node} {alignment : List (Option String)}

theorem pruned_of_hides (h : n.hidesChildren = true) : n.pruned = n.withChildren [] := by
  rw [pruned, if_pos h]

theorem pruned_of_shows (h : n.hidesChildren = false) : n.pruned = n.mapChildren pruned := by
  rw [pruned, if_neg (by simp [h]), map_children_attach, mapChildren]

/-- Pruning changes the children of a node and nothing else about it. -/
theorem exists_pruned_eq (n : Node) : ∃ cs, n.pruned = n.redone n.decoration cs := by
  cases h : n.hidesChildren with
  | true => exact ⟨_, pruned_of_hides h⟩
  | false => exact ⟨_, pruned_of_shows h⟩

@[simp] theorem kind_pruned (n : Node) : n.pruned.kind = n.kind := by
  obtain ⟨cs, same⟩ := n.exists_pruned_eq
  rw [same]
  rfl

@[simp] theorem value_pruned (n : Node) : n.pruned.value = n.value := by
  obtain ⟨cs, same⟩ := n.exists_pruned_eq
  rw [same]
  rfl

@[simp] theorem checked_pruned (n : Node) : n.pruned.checked = n.checked := by
  obtain ⟨cs, same⟩ := n.exists_pruned_eq
  rw [same]
  rfl

@[simp] theorem columns_pruned (n : Node) : n.pruned.columns = n.columns := by
  obtain ⟨cs, same⟩ := n.exists_pruned_eq
  rw [same]
  rfl

@[simp] theorem isText_pruned (n : Node) : n.pruned.isText = n.isText := by
  rw [isText, isText, kind_pruned]

@[simp] theorem isCell_pruned (n : Node) : n.pruned.isCell = n.isCell := by
  rw [isCell, isCell, kind_pruned]

@[simp] theorem handling_pruned (n : Node) : n.pruned.handling = n.handling := by
  rw [handling, handling, kind_pruned]

theorem childList_pruned (h : n.hidesChildren = false) :
    n.pruned.childList = n.childList.map pruned := by
  rw [pruned_of_shows h, childList_mapChildren]

theorem pruned_withChildren (h : n.hidesChildren = false) (cs : List Node) :
    (n.withChildren cs).pruned = n.withChildren (cs.map pruned) :=
  pruned_of_shows (n := n.withChildren cs) h

theorem pruned_withChildren_of_hides (h : n.hidesChildren = true) (cs : List Node) :
    (n.withChildren cs).pruned = n.withChildren [] :=
  pruned_of_hides (n := n.withChildren cs) h

/-! ### Tables -/

/-- The alignment of a cell has no part in what is rendered of its children. -/
theorem pruned_withAlign (n : Node) (a : Option Alignment) :
    ({ n with align := a } : Node).pruned = { n.pruned with align := a } := by
  cases h : n.hidesChildren with
  | true => rw [pruned_of_hides h, pruned_of_hides (n := { n with align := a }) h]; rfl
  | false => rw [pruned_of_shows h, pruned_of_shows (n := { n with align := a }) h]; rfl

/-- By induction on the tree, as the search for cells goes on below every node that is no cell. It
also goes on below nodes that hide their children. -/
theorem pruned_alignCells (n : Node) :
    (alignCells alignment n).pruned = alignCells alignment n.pruned := by
  induction n using induct with
  | step n ih =>
    have each (i : Nat) (c : Node) (hc : c ∈ n.childList) :
        (alignChild alignment i c).pruned = alignChild alignment i c.pruned := by
      unfold alignChild
      rw [isCell_pruned]
      split
      · exact pruned_withAlign c _
      cases h : c.hidesChildren with
      | true =>
        rw [pruned_of_hides h]
        split
        · exact pruned_of_hides h
        · rw [alignCells_eq, pruned_withChildren_of_hides h]
          rfl
      | false =>
        rw [childList_pruned h, List.isEmpty_map]
        split
        · rfl
        · exact ih c hc
    rw [alignCells_eq, alignCells_eq]
    cases h : n.hidesChildren with
    | true =>
      rw [pruned_withChildren_of_hides h, pruned_of_hides h]
      rfl
    | false =>
      rw [pruned_withChildren h, childList_pruned h, pruned_of_shows h, map_mapIdx, mapIdx_map,
        mapIdx_congr each]
      rfl

theorem pruned_asHeaderCell (n : Node) : (asHeaderCell n).pruned = asHeaderCell n.pruned := by
  unfold asHeaderCell
  rw [kind_pruned]
  split
  · next cell =>
    have alike : ({ n with kind := "tableHeaderCell" } : Node).hidesChildren =
        n.hidesChildren := by
      simp [hidesChildren, isText, isUnrendered, cell]
    cases h : n.hidesChildren with
    | true => rw [pruned_of_hides h, pruned_of_hides (alike.trans h)]; rfl
    | false => rw [pruned_of_shows h, pruned_of_shows (alike.trans h)]; rfl
  · rfl

theorem map_pruned_asHeaderCell (cs : List Node) :
    (cs.map asHeaderCell).map pruned = (cs.map pruned).map asHeaderCell := by
  rw [List.map_map, List.map_map]
  exact List.map_congr_left fun c _ => pruned_asHeaderCell c

theorem pruned_tableRow (cells : List Node) :
    (tableRow cells).pruned = tableRow (cells.map pruned) :=
  pruned_of_shows (show (tableRow cells).hidesChildren = false by rfl)

theorem pruned_tableBody (rows : List Node) :
    (tableBody rows).pruned = tableBody (rows.map pruned) :=
  pruned_of_shows (show (tableBody rows).hidesChildren = false by rfl)

theorem holdsRows_pruned (h : n.hidesChildren = false) : n.pruned.holdsRows = n.holdsRows := by
  rw [Bool.eq_iff_iff, holdsRows_iff, holdsRows_iff, childList_pruned h]
  simp

theorem childList_restructureTable_pruned (h : n.hidesChildren = false) :
    n.pruned.restructureTable.childList = n.restructureTable.childList.map pruned := by
  have aligned (kind : String) :
      (n.pruned.childrenOfKind kind).map (alignCells n.columns) =
        ((n.childrenOfKind kind).map (alignCells n.columns)).map pruned := by
    rw [childrenOfKind, childList_pruned h, List.filter_map, List.map_map, List.map_map,
      childrenOfKind]
    simp [Function.comp_def, pruned_alignCells]
  rw [childList_restructureTable, childList_restructureTable, columns_pruned, List.map_append,
    List.map_cons, pruned_tableBody, aligned, aligned, aligned]

theorem childList_headerRows_pruned (h : n.hidesChildren = false) :
    n.pruned.headerRows.childList = n.headerRows.childList.map pruned := by
  have row (r : Node) :
      r.pruned.withChildren (r.pruned.childList.map asHeaderCell) =
        (r.withChildren (r.childList.map asHeaderCell)).pruned := by
    cases hides : r.hidesChildren with
    | true =>
      rw [pruned_withChildren_of_hides hides, pruned_of_hides hides]
      rfl
    | false =>
      rw [pruned_withChildren hides, childList_pruned hides, map_pruned_asHeaderCell,
        pruned_of_shows hides]
      rfl
  rw [headerRows, headerRows, childList_withChildren, childList_withChildren, holdsRows_pruned h,
    childList_pruned h]
  split
  · rw [List.map_map, List.map_map]
    exact List.map_congr_left fun r _ => row r
  · rw [List.map_singleton, pruned_tableRow, map_pruned_asHeaderCell]

theorem childList_footerRows_pruned (h : n.hidesChildren = false) :
    n.pruned.footerRows.childList = n.footerRows.childList.map pruned := by
  rw [footerRows, footerRows, holdsRows_pruned h]
  split
  · exact childList_pruned h
  · rw [childList_withChildren, childList_withChildren, List.map_singleton, pruned_tableRow,
      childList_pruned h]

/-- What is rendered in the place of the children of a node is pruned like the children. -/
theorem childList_rewritten_pruned (h : n.hidesChildren = false) :
    n.pruned.rewritten.childList = n.rewritten.childList.map pruned := by
  unfold rewritten
  rw [handling_pruned]
  cases handled : n.handling with
  | table => exact childList_restructureTable_pruned h
  | tableHeader => exact childList_headerRows_pruned h
  | tableFooter => exact childList_footerRows_pruned h
  | footnoteReference =>
    have kind := n.kind_of_handling
    simp only [handled] at kind
    simp [hidesChildren, kind] at h
  | _ => exact childList_pruned h

/-- A footnote reference gets its mark in the place of whatever it holds. -/
theorem rewritten_pruned_of_reference (h : n.kind = "footnoteReference") :
    n.pruned.rewritten = n.rewritten := by
  have handled : n.handling = .footnoteReference := by
    rw [handling, h]
    rfl
  have hides : n.hidesChildren = true := by simp [hidesChildren, h]
  rw [rewritten, rewritten, handling_pruned, handled, pruned_of_hides hides]
  rfl

/-! ### The search for cells -/

/-- The search goes on below every child that is no cell and that has children itself. -/
theorem groupingDepth_lt_of_mem (member : c ∈ n.childList) (cell : c.isCell = false)
    (inner : c.childList ≠ []) : c.groupingDepth < n.groupingDepth := by
  have searched := List.mem_map_of_mem (f := fun d : Node =>
    if d.isCell || d.childList.isEmpty then 0 else d.groupingDepth) member
  rw [if_neg (by simp [cell, inner])] at searched
  have deepest := greatest_le_iff.1 (Nat.le_refl _) _ searched
  rw [groupingDepth_eq n, foldl_max_eq_greatest]
  omega

/-- The search goes no deeper in the pruned tree. -/
theorem groupingDepth_pruned_le (n : Node) : n.pruned.groupingDepth ≤ n.groupingDepth := by
  induction n using induct with
  | step n ih =>
    rw [groupingDepth_eq, groupingDepth_eq n, foldl_max_eq_greatest, foldl_max_eq_greatest]
    cases h : n.hidesChildren with
    | true =>
      rw [pruned_of_hides h]
      exact Nat.le_add_right 1 _
    | false =>
      rw [childList_pruned h, List.map_map]
      refine Nat.add_le_add_left (greatest_map_mono fun c member => ?_) 1
      rw [Function.comp_apply, isCell_pruned]
      cases hides : c.hidesChildren with
      | true => simp [pruned_of_hides hides]
      | false =>
        rw [childList_pruned hides, List.isEmpty_map]
        split
        · exact Nat.le_refl _
        · exact ih c member

end MarkdownTree.Node
