import MarkdownTree.Proofs.Node.Tables

/-!
# Laws of the rewriting of tables

Three things are done to the cells of a table: they get the alignment of their columns, those of a
header become header cells, and those that stand in a header or footer directly are put into a row.
Each is done once and for all, and aligning may come before or after the other two
(`aligning_and_grouping_settle`). The converter does it before: a table aligns the cells of its
sections, which are grouped into rows only when they are converted themselves.

The order does not count because a row that is made of cells counts them from the same place on, and
because a header cell is a cell. The laws of aligning are stated for a node at a place among its
siblings, as that is what its alignment depends on.
-/

namespace MarkdownTree.Node

variable {alignment : List (Option String)} {n c r : Node} {i : Nat}

/-! ### Aligning -/

theorem alignCells_withChildren (cs : List Node) :
    alignCells alignment (n.withChildren cs) = n.withChildren (cs.mapIdx (alignChild alignment)) := by
  rw [alignCells_eq, withChildren_withChildren, childList_withChildren]

/-- Aligning what groups cells changes its children and nothing else. -/
theorem withChildren_alignChild (grouping : r.isCell = false) (cs : List Node) :
    (alignChild alignment i r).withChildren cs = r.withChildren cs := by
  rw [alignChild, if_neg (by simp [grouping])]
  split
  · rfl
  · rw [alignCells_eq, withChildren_withChildren]

/-- Also a group without children is aligned by aligning its children. -/
theorem alignChild_withChildren (grouping : r.isCell = false) (cs : List Node) :
    alignChild alignment i (r.withChildren cs) =
      r.withChildren (cs.mapIdx (alignChild alignment)) := by
  have group : (r.withChildren cs).isCell = false := grouping
  rw [alignChild, if_neg (by simp [group])]
  split
  · next none =>
    rw [childList_withChildren, List.isEmpty_iff] at none
    rw [none, List.mapIdx_nil]
  · exact alignCells_withChildren cs

theorem alignChild_tableRow (cells : List Node) :
    alignChild alignment i (tableRow cells) = tableRow (cells.mapIdx (alignChild alignment)) :=
  alignChild_withChildren (r := tableRow []) rfl cells

/-- A cell has the alignment of its column already, and so has every cell of a group if it has. -/
theorem alignChild_alignChild
    (settled : alignCells alignment (alignCells alignment c) = alignCells alignment c) :
    alignChild alignment i (alignChild alignment i c) = alignChild alignment i c := by
  rcases alignChild_cases alignment c i with ⟨cell, aligned⟩ | ⟨-, kept⟩ | ⟨grouping, -, searched⟩
  · rw [aligned]
    exact if_pos cell
  · rw [kept, kept]
  · rw [searched, alignCells_eq, alignChild_withChildren grouping, ← alignCells_withChildren,
      ← alignCells_eq, settled]

/-- By induction on the nodes that group cells. -/
theorem alignCells_alignCells (alignment : List (Option String)) (n : Node) :
    alignCells alignment (alignCells alignment n) = alignCells alignment n := by
  induction n using induct with
  | step n ih =>
    rw [alignCells_eq alignment n, alignCells_withChildren, List.mapIdx_mapIdx]
    congr 1
    exact mapIdx_congr fun i c member => alignChild_alignChild (ih c member)

/-! ### Header cells -/

theorem asHeaderCell_asHeaderCell (c : Node) : asHeaderCell (asHeaderCell c) = asHeaderCell c := by
  by_cases cell : c.kind = "tableCell"
  · simp [asHeaderCell, cell]
  · simp [asHeaderCell, cell]

theorem map_asHeaderCell_map_asHeaderCell (cells : List Node) :
    (cells.map asHeaderCell).map asHeaderCell = cells.map asHeaderCell := by
  rw [List.map_map]
  exact List.map_congr_left fun c _ => asHeaderCell_asHeaderCell c

/-- A cell is in the same column whether it is a header cell already or not. -/
theorem asHeaderCell_alignChild (alignment : List (Option String)) (i : Nat) (c : Node) :
    asHeaderCell (alignChild alignment i c) = alignChild alignment i (asHeaderCell c) := by
  by_cases cell : c.kind = "tableCell"
  · have made : asHeaderCell c = { c with kind := "tableHeaderCell" } := if_pos cell
    have aligned : alignChild alignment i c = { c with align := columnAlignment alignment i } :=
      if_pos (by simp [isCell, cell])
    rw [made, aligned, asHeaderCell, if_pos cell]
    exact (if_pos rfl).symm
  · have kept : asHeaderCell c = c := if_neg cell
    rw [kept]
    exact if_neg (by rwa [kind_alignChild])

theorem map_asHeaderCell_mapIdx (cells : List Node) :
    (cells.mapIdx (alignChild alignment)).map asHeaderCell =
      (cells.map asHeaderCell).mapIdx (alignChild alignment) := by
  rw [map_mapIdx, mapIdx_map]
  exact mapIdx_congr fun i c _ => asHeaderCell_alignChild alignment i c

/-! ### Rows -/

theorem isCell_of_tableRow (row : r.kind = "tableRow") : r.isCell = false := by
  simp [isCell, row]

theorem holdsRows_tableRow (cells : List Node) : (n.withChildren [tableRow cells]).holdsRows = true :=
  rfl

theorem asHeaderRow_asHeaderRow (r : Node) : asHeaderRow (asHeaderRow r) = asHeaderRow r := by
  rw [asHeaderRow, asHeaderRow, withChildren_withChildren, childList_withChildren,
    map_asHeaderCell_map_asHeaderCell]

/-- The cells of a row are counted from the same place on before and after. -/
theorem asHeaderRow_alignChild (row : r.kind = "tableRow") :
    asHeaderRow (alignChild alignment i r) = alignChild alignment i (asHeaderRow r) := by
  have grouping := isCell_of_tableRow row
  rw [asHeaderRow, asHeaderRow, withChildren_alignChild grouping, alignChild_withChildren grouping,
    childList_alignChild grouping, map_asHeaderCell_mapIdx]

theorem holdsRows_headerRows (n : Node) : n.headerRows.holdsRows = true := by
  cases held : n.holdsRows with
  | true =>
    rw [headerRows_of_holdsRows held]
    obtain ⟨some, rows⟩ := holdsRows_iff.1 held
    rw [holdsRows_iff, childList_withChildren]
    refine ⟨by simpa using some, fun r' member => ?_⟩
    obtain ⟨r, there, rfl⟩ := List.mem_map.1 member
    exact rows r there
  | false =>
    rw [headerRows_of_cells held]
    exact holdsRows_tableRow _

theorem headerRows_headerRows (n : Node) : n.headerRows.headerRows = n.headerRows := by
  rw [headerRows_of_holdsRows n.holdsRows_headerRows]
  cases held : n.holdsRows with
  | true =>
    rw [headerRows_of_holdsRows held, withChildren_withChildren, childList_withChildren,
      List.map_map]
    congr 1
    exact List.map_congr_left fun r _ => asHeaderRow_asHeaderRow r
  | false =>
    rw [headerRows_of_cells held, withChildren_withChildren, childList_withChildren,
      List.map_singleton]
    congr 2
    exact congrArg tableRow (map_asHeaderCell_map_asHeaderCell n.childList)

theorem footerRows_footerRows (n : Node) : n.footerRows.footerRows = n.footerRows := by
  cases held : n.holdsRows with
  | true => rw [footerRows_of_holdsRows held, footerRows_of_holdsRows held]
  | false =>
    rw [footerRows_of_cells held]
    exact footerRows_of_holdsRows (holdsRows_tableRow _)

/-! ### Aligning before and after grouping -/

theorem headerRows_alignCells (alignment : List (Option String)) (n : Node) :
    (alignCells alignment n).headerRows = alignCells alignment n.headerRows := by
  cases held : n.holdsRows with
  | true =>
    obtain ⟨_, rows⟩ := holdsRows_iff.1 held
    rw [headerRows_of_holdsRows held, headerRows_of_holdsRows (by rwa [holdsRows_alignCells]),
      childList_alignCells, alignCells_eq, withChildren_withChildren, alignCells_withChildren,
      map_mapIdx, mapIdx_map]
    congr 1
    exact mapIdx_congr fun i r member => asHeaderRow_alignChild (rows r member)
  | false =>
    rw [headerRows_of_cells held, headerRows_of_cells (by rwa [holdsRows_alignCells]),
      childList_alignCells, alignCells_eq, withChildren_withChildren, alignCells_withChildren,
      List.mapIdx_singleton, alignChild_tableRow, map_asHeaderCell_mapIdx]

theorem footerRows_alignCells (alignment : List (Option String)) (n : Node) :
    (alignCells alignment n).footerRows = alignCells alignment n.footerRows := by
  cases held : n.holdsRows with
  | true =>
    rw [footerRows_of_holdsRows held, footerRows_of_holdsRows (by rwa [holdsRows_alignCells])]
  | false =>
    rw [footerRows_of_cells held, footerRows_of_cells (by rwa [holdsRows_alignCells]),
      childList_alignCells, alignCells_eq, withChildren_withChildren, alignCells_withChildren,
      List.mapIdx_singleton, alignChild_tableRow]

/-- Grouping the cells of a header or a footer into rows and giving cells the alignment of their
columns are each done once and for all, and it does not matter which of them comes first. The
children can be cells, rows, other groups or a mixture of these, and they can be absent. -/
theorem aligning_and_grouping_settle (alignment : List (Option String)) (n : Node) :
    n.headerRows.headerRows = n.headerRows ∧ n.footerRows.footerRows = n.footerRows ∧
      alignCells alignment (alignCells alignment n) = alignCells alignment n ∧
      (alignCells alignment n).headerRows = alignCells alignment n.headerRows ∧
      (alignCells alignment n).footerRows = alignCells alignment n.footerRows :=
  ⟨headerRows_headerRows n, footerRows_footerRows n, alignCells_alignCells alignment n,
    headerRows_alignCells alignment n, footerRows_alignCells alignment n⟩

/-- Two cells beside a row are put into a row of their own, in which the row keeps its column. -/
example :
    let mixed : Node := .branch "tableHeader" [.branch "tableRow" [.leaf "tableCell" "x"],
      .leaf "tableCell" "y"]
    let header (n : Node) : Node := n.withChildren [tableRow
      [.branch "tableRow" [{ Node.leaf "tableCell" "x" with align := some (.single "left") }],
        { Node.leaf "tableHeaderCell" "y" with align := some (.single "right") }]]
    (alignCells [some "left", some "right"] mixed).headerRows = header mixed := by
  cbv

end MarkdownTree.Node
