import MarkdownTree.Conversion.Tables

/-!
# What the alignment of cells keeps

Aligning the cells below a node changes the alignment of cells and nothing else. Kinds, values and
the number of children stay as they are, so a section of a table holds rows after its cells were
aligned if and only if it held rows before.
-/

namespace MarkdownTree.Node

theorem map_mapIdx (l : List α) (f : Nat → α → β) (g : β → γ) :
    (l.mapIdx f).map g = l.mapIdx fun i a => g (f i a) :=
  List.ext_getElem (by simp) (by simp)

theorem mapIdx_map (l : List α) (g : α → β) (f : Nat → β → γ) :
    (l.map g).mapIdx f = l.mapIdx fun i a => f i (g a) :=
  List.ext_getElem (by simp) (by simp)

/-- Mapping depends only on what is done to the members. -/
theorem mapIdx_congr {l : List α} {f g : Nat → α → β} (each : ∀ i, ∀ a ∈ l, f i a = g i a) :
    l.mapIdx f = l.mapIdx g :=
  List.mapIdx_eq_mapIdx_iff.2 fun i below => each i _ (List.getElem_mem below)

variable (alignment : List (Option String)) (n c : Node) (i : Nat)

@[simp] theorem kind_alignCells : (alignCells alignment n).kind = n.kind := by
  rw [alignCells_eq, kind_withChildren]

@[simp] theorem value_alignCells : (alignCells alignment n).value = n.value := by
  rw [alignCells_eq, value_withChildren]

@[simp] theorem childList_alignCells :
    (alignCells alignment n).childList = n.childList.mapIdx (alignChild alignment) := by
  rw [alignCells_eq, childList_withChildren]

/-- A cell gets the alignment of its column, a node that groups others is searched, and any other
node stays as it is. -/
theorem alignChild_cases :
    (c.isCell = true ∧ alignChild alignment i c = { c with align := columnAlignment alignment i }) ∨
      (c.childList = [] ∧ alignChild alignment i c = c) ∨
      (c.isCell = false ∧ c.childList ≠ [] ∧ alignChild alignment i c = alignCells alignment c) := by
  rw [alignChild]
  split
  · next cell => exact .inl ⟨cell, rfl⟩
  · next other =>
    split
    · next childless => exact .inr (.inl ⟨List.isEmpty_iff.1 childless, rfl⟩)
    · next children => exact .inr (.inr ⟨by simpa using other, by simpa using children, rfl⟩)

variable {alignment n c i}

/-- What is the same for a cell of any alignment and for a group whose cells were searched is the
same for an aligned child. -/
theorem congr_alignChild {f : Node → β}
    (cell : c.isCell = true → f { c with align := columnAlignment alignment i } = f c)
    (group : c.isCell = false → c.childList ≠ [] → f (alignCells alignment c) = f c) :
    f (alignChild alignment i c) = f c := by
  rcases alignChild_cases alignment c i with ⟨isCell, same⟩ | ⟨-, same⟩ | ⟨other, some, same⟩
  · rw [same, cell isCell]
  · rw [same]
  · rw [same, group other some]

/-- What is the same for every aligned child is the same for all of them. -/
theorem map_childList_alignCells {f : Node → β}
    (each : ∀ i, ∀ c ∈ n.childList, f (alignChild alignment i c) = f c) :
    (alignCells alignment n).childList.map f = n.childList.map f := by
  rw [childList_alignCells, map_mapIdx, mapIdx_congr each]
  exact List.ext_getElem (by simp) (by simp)

variable (alignment c i)

@[simp] theorem kind_alignChild : (alignChild alignment i c).kind = c.kind :=
  congr_alignChild (fun _ => rfl) fun _ _ => kind_alignCells alignment c

@[simp] theorem value_alignChild : (alignChild alignment i c).value = c.value :=
  congr_alignChild (fun _ => rfl) fun _ _ => value_alignCells alignment c

@[simp] theorem isCell_alignChild : (alignChild alignment i c).isCell = c.isCell := by
  simp only [isCell, kind_alignChild]

variable {alignment c i}

/-- The column of a cell is its place among its siblings. -/
theorem align_alignChild (h : c.isCell = true) :
    (alignChild alignment i c).align = columnAlignment alignment i := by
  rw [alignChild, if_pos h]

/-- Nodes that group cells are searched in the same way at every depth. -/
theorem childList_alignChild (h : c.isCell = false) :
    (alignChild alignment i c).childList = c.childList.mapIdx (alignChild alignment) := by
  rw [alignChild, if_neg (by simp [h])]
  split
  · next none =>
    rw [List.isEmpty_iff.1 none]
    rfl
  · exact childList_alignCells alignment c

theorem kind_of_mem_childrenOfKind {kind : String} (h : c ∈ n.childrenOfKind kind) :
    c.kind = kind := by
  simpa [childrenOfKind] using (List.mem_filter.1 h).2

theorem childList_restructureTable : n.restructureTable.childList =
    (n.childrenOfKind "tableHeader").map (alignCells n.columns) ++
      tableBody ((n.childrenOfKind "tableRow").map (alignCells n.columns)) ::
        (n.childrenOfKind "tableFooter").map (alignCells n.columns) := rfl

theorem holdsRows_iff :
    n.holdsRows = true ↔ n.childList ≠ [] ∧ ∀ r ∈ n.childList, r.kind = "tableRow" := by
  simp [holdsRows]

@[simp] theorem holdsRows_alignCells : (alignCells alignment n).holdsRows = n.holdsRows := by
  rw [Bool.eq_iff_iff, holdsRows_iff, holdsRows_iff, childList_alignCells]
  refine and_congr (by simp) ?_
  constructor
  · intro rows r member
    obtain ⟨i, hi, rfl⟩ := List.mem_iff_getElem.1 member
    simpa using rows _ (List.mem_mapIdx.2 ⟨i, hi, rfl⟩)
  · intro rows r' member
    obtain ⟨i, hi, rfl⟩ := List.mem_mapIdx.1 member
    simpa using rows _ (List.getElem_mem hi)

/-! ### Rows of headers and footers -/

/-- The row with its cells made header cells. -/
def asHeaderRow (r : Node) : Node := r.withChildren (r.childList.map asHeaderCell)

theorem headerRows_of_holdsRows (rows : n.holdsRows = true) :
    n.headerRows = n.withChildren (n.childList.map asHeaderRow) := by
  rw [headerRows, if_pos rows]
  rfl

theorem headerRows_of_cells (cells : n.holdsRows = false) :
    n.headerRows = n.withChildren [tableRow (n.childList.map asHeaderCell)] := by
  rw [headerRows, if_neg (by simp [cells])]

theorem footerRows_of_holdsRows (rows : n.holdsRows = true) : n.footerRows = n := if_pos rows

theorem footerRows_of_cells (cells : n.holdsRows = false) :
    n.footerRows = n.withChildren [tableRow n.childList] := if_neg (by simp [cells])

end MarkdownTree.Node
