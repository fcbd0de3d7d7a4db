import MarkdownTree.Proofs.Syntax.Forms
import Mathlib.Data.List.Forall2

/-!
# What a table of the syntax tree becomes

A table has sections, these have rows, and these have cells. The builder goes down the three levels
in one pass that gathers nodes and alignments; here each level is said apart. A cell becomes a node
with the nodes of its content, a row becomes a row or a header, and the sections give way to their
rows (`build_table_eq_ok`). The alignments are those of the last row of a head.
-/

namespace MarkdownTree.Syntax

open MarkdownTree.Syntax.Tree

variable {position : Bool} {t : Tree} {ts : List Tree} {ns : List Node}

/-- A list related to one in two parts has two parts itself. -/
theorem forall₂_append_left_iff {R : α → β → Prop} {as bs : List α} {cs : List β} :
    List.Forall₂ R (as ++ bs) cs ↔
      ∃ ds es, List.Forall₂ R as ds ∧ List.Forall₂ R bs es ∧ cs = ds ++ es := by
  constructor
  · intro h
    induction as generalizing cs with
    | nil => exact ⟨[], cs, .nil, h, rfl⟩
    | cons a as ih =>
      obtain ⟨c, rest, head, tail, rfl⟩ := List.forall₂_cons_left_iff.1 h
      obtain ⟨ds, es, first, second, rfl⟩ := ih tail
      exact ⟨c :: ds, es, .cons head first, second, rfl⟩
  · rintro ⟨ds, es, first, second, rfl⟩
    exact List.rel_append first second

/-- The cell becomes the node. -/
def CellBecomes (position : Bool) (cell : Tree) (n : Node) : Prop :=
  ∃ children, buildAll position cell.children = .ok children ∧
    n = { kind := "tableCell", children := some children,
          position := placeOf position cell.lines }

/-- The node of a row with the given section and cells. A row of a head is a header in the place of
its section. -/
def rowNode (position : Bool) (section_ row : Tree) (cells : List Node) : Node :=
  if section_.kind = "thead" then
    { kind := "tableHeader", children := some cells, position := placeOf position section_.lines }
  else { kind := "tableRow", children := some cells, position := placeOf position row.lines }

/-- The row, which comes with its section, becomes the node. -/
def RowBecomes (position : Bool) (r : Tree × Tree) (n : Node) : Prop :=
  ∃ cells, List.Forall₂ (CellBecomes position) r.2.children cells ∧
    n = rowNode position r.1 r.2 cells

/-- The alignments of a table after the given rows, each with its section. -/
def alignmentsAfter (align : List (Option String)) (rows : List (Tree × Tree)) :
    List (Option String) :=
  rows.foldl (fun align r =>
    if r.1.kind = "thead" then r.2.children.map cellAlignment else align) align

/-- The rows of the sections of a table, each with its section. -/
def sectionRows (sections : List Tree) : List (Tree × Tree) :=
  sections.flatMap fun section_ => section_.children.map fun row => (section_, row)

theorem sectionRows_nil : sectionRows [] = [] := rfl

theorem sectionRows_cons (section_ : Tree) (ts : List Tree) :
    sectionRows (section_ :: ts) =
      (section_.children.map fun row => (section_, row)) ++ sectionRows ts :=
  List.flatMap_cons

theorem mem_cells_of_mem_sectionRows {r : Tree × Tree} {cell : Tree}
    (hr : r ∈ sectionRows t.children) (hc : cell ∈ r.2.children) : cell ∈ t.cells := by
  obtain ⟨section_, hs, there⟩ := List.mem_flatMap.1 hr
  obtain ⟨row, hrow, rfl⟩ := List.mem_map.1 there
  exact List.mem_flatMap.2 ⟨row, List.mem_flatMap.2 ⟨section_, hs, hrow⟩, hc⟩

theorem mem_parts_of_cell {cell u : Tree} (table : t.kind = "table") (hc : cell ∈ t.cells)
    (hu : u ∈ cell.children) : u ∈ t.parts := by
  rw [Tree.parts, if_neg (by simp [table, closedKinds]), if_pos table]
  exact List.mem_flatMap.2 ⟨cell, hc, hu⟩

/-- Rows outside of heads name no alignments. -/
theorem alignmentsAfter_of_ne {align : List (Option String)} {rows : List (Tree × Tree)}
    (other : ∀ r ∈ rows, r.1.kind ≠ "thead") : alignmentsAfter align rows = align := by
  induction rows with
  | nil => rfl
  | cons r rows ih =>
    rw [List.forall_mem_cons] at other
    have skip : alignmentsAfter align (r :: rows) = alignmentsAfter align rows := by
      rw [alignmentsAfter, List.foldl_cons, if_neg other.1]
      rfl
    rw [skip, ih other.2]

/-- The section, the row and the cells of the row are in the tree. -/
theorem mem_preorder_of_sectionRows {r : Tree × Tree} (hr : r ∈ sectionRows t.children) :
    r.1 ∈ t.preorder ∧ r.2 ∈ t.preorder ∧ ∀ cell ∈ r.2.children, cell ∈ t.preorder := by
  obtain ⟨section_, hs, there⟩ := List.mem_flatMap.1 hr
  obtain ⟨row, hrow, rfl⟩ := List.mem_map.1 there
  refine ⟨mem_preorder_of_child hs (mem_preorder_self _), ?_, fun cell hc => ?_⟩
  · exact mem_preorder_of_child hs (mem_preorder_of_child hrow (mem_preorder_self _))
  · exact mem_preorder_of_child hs (mem_preorder_of_child hrow
      (mem_preorder_of_child hc (mem_preorder_self _)))

theorem buildCells_eq_ok :
    buildCells position ts = .ok ns ↔ List.Forall₂ (CellBecomes position) ts ns := by
  induction ts generalizing ns with
  | nil =>
    rw [buildCells, List.forall₂_nil_left_iff]
    exact ⟨fun h => by cases h; rfl, fun h => by rw [h]; rfl⟩
  | cons cell ts ih =>
    rw [buildCells, bind_eq_ok, List.forall₂_cons_left_iff]
    constructor
    · rintro ⟨children, content, rest⟩
      obtain ⟨others, built, last⟩ := bind_eq_ok.1 rest
      cases last
      exact ⟨_, others, ⟨children, content, rfl⟩, ih.1 built, rfl⟩
    · rintro ⟨_, others, ⟨children, content, rfl⟩, made, rfl⟩
      exact ⟨children, content, bind_eq_ok.2 ⟨others, ih.2 made, rfl⟩⟩

/-- What is gathered after one more row. -/
theorem gathered_eq (content : TableContent) (section_ row : Tree) (cells : List Node) :
    (if section_.kind = "thead" then
      { align := row.children.map cellAlignment,
        children := content.children ++
          [{ kind := "tableHeader", children := some cells,
             position := placeOf position section_.lines }] }
    else
      { content with
        children := content.children ++
          [{ kind := "tableRow", children := some cells,
             position := placeOf position row.lines }] } : TableContent) =
      { align := alignmentsAfter content.align [(section_, row)],
        children := content.children ++ [rowNode position section_ row cells] } := by
  simp only [alignmentsAfter, rowNode, List.foldl_cons, List.foldl_nil]
  split <;> rfl

theorem buildRows_eq_ok {section_ : Tree} {before after : TableContent} :
    buildRows position section_.kind section_.lines before ts = .ok after ↔
      ∃ rows, List.Forall₂ (RowBecomes position) (ts.map fun row => (section_, row)) rows ∧
        after = { align := alignmentsAfter before.align (ts.map fun row => (section_, row)),
                  children := before.children ++ rows } := by
  induction ts generalizing before with
  | nil =>
    rw [buildRows]
    constructor
    · intro h
      cases h
      exact ⟨[], .nil, by simp [alignmentsAfter]⟩
    · rintro ⟨rows, made, rfl⟩
      cases made
      simp [alignmentsAfter]
      rfl
  | cons row ts ih =>
    rw [buildRows, bind_eq_ok, List.map_cons]
    constructor
    · rintro ⟨cells, built, rest⟩
      rw [gathered_eq] at rest
      obtain ⟨rows, made, rfl⟩ := ih.1 rest
      refine ⟨_, .cons ⟨cells, buildCells_eq_ok.1 built, rfl⟩ made, ?_⟩
      simp [alignmentsAfter]
    · rintro ⟨_, made, rfl⟩
      obtain ⟨n, rows, ⟨cells, first, rfl⟩, others, rfl⟩ := List.forall₂_cons_left_iff.1 made
      refine ⟨cells, buildCells_eq_ok.2 first, ?_⟩
      rw [gathered_eq]
      exact ih.2 ⟨rows, others, by simp [alignmentsAfter]⟩

theorem buildSections_eq_ok {before after : TableContent} :
    buildSections position before ts = .ok after ↔
      ∃ rows, List.Forall₂ (RowBecomes position) (sectionRows ts) rows ∧
        after = { align := alignmentsAfter before.align (sectionRows ts),
                  children := before.children ++ rows } := by
  induction ts generalizing before with
  | nil =>
    rw [buildSections]
    constructor
    · intro h
      cases h
      exact ⟨[], .nil, by simp [alignmentsAfter, sectionRows_nil]⟩
    · rintro ⟨rows, made, rfl⟩
      cases made
      simp [alignmentsAfter, sectionRows_nil]
      rfl
  | cons section_ ts ih =>
    rw [buildSections, bind_eq_ok, sectionRows_cons]
    constructor
    · rintro ⟨_, built, rest⟩
      obtain ⟨rows, made, rfl⟩ := buildRows_eq_ok.1 built
      obtain ⟨others, made', rfl⟩ := ih.1 rest
      refine ⟨rows ++ others, List.rel_append made made', ?_⟩
      simp [alignmentsAfter]
    · rintro ⟨_, made, rfl⟩
      obtain ⟨rows, others, first, rest, rfl⟩ := forall₂_append_left_iff.1 made
      refine ⟨_, buildRows_eq_ok.2 ⟨rows, first, rfl⟩, ih.2 ⟨others, rest, ?_⟩⟩
      simp [alignmentsAfter]

theorem build_table (table : t.kind = "table") :
    build position t = (do
      let content ← buildSections position {} t.children
      return [{ kind := "table", align := some (.columns content.align),
                children := some content.children, position := placeOf position t.lines }]) := by
  rw [build]
  simp only [table]
  rfl

/-- A table becomes a node with its rows, whatever sections they stand in. -/
theorem build_table_eq_ok (table : t.kind = "table") :
    build position t = .ok ns ↔
      ∃ rows, List.Forall₂ (RowBecomes position) (sectionRows t.children) rows ∧
        ns = [{ kind := "table",
                align := some (.columns (alignmentsAfter [] (sectionRows t.children))),
                children := some rows, position := placeOf position t.lines }] := by
  rw [build_table table, bind_eq_ok]
  constructor
  · rintro ⟨_, built, last⟩
    obtain ⟨rows, made, rfl⟩ := buildSections_eq_ok.1 built
    cases last
    exact ⟨rows, made, rfl⟩
  · rintro ⟨rows, made, rfl⟩
    exact ⟨_, buildSections_eq_ok.2 ⟨rows, made, rfl⟩, rfl⟩

/-! ### Failures -/

variable {fault : Fault}

theorem buildCells_eq_error (h : buildCells position ts = .error fault) :
    ∃ cell ∈ ts, buildAll position cell.children = .error fault := by
  induction ts with
  | nil =>
    rw [buildCells] at h
    cases h
  | cons cell ts ih =>
    rw [buildCells] at h
    obtain content | ⟨_, _, h⟩ := of_bind_eq_error h
    · exact ⟨cell, List.mem_cons_self, content⟩
    · obtain others | ⟨_, _, last⟩ := of_bind_eq_error h
      · obtain ⟨cell', hc, content⟩ := ih others
        exact ⟨cell', List.mem_cons_of_mem _ hc, content⟩
      · cases last

theorem buildRows_eq_error {kind : String} {lines : Option (Int × Int)} {before : TableContent}
    (h : buildRows position kind lines before ts = .error fault) :
    ∃ row ∈ ts, ∃ cell ∈ row.children, buildAll position cell.children = .error fault := by
  induction ts generalizing before with
  | nil =>
    rw [buildRows] at h
    cases h
  | cons row ts ih =>
    rw [buildRows] at h
    obtain cells | ⟨_, _, h⟩ := of_bind_eq_error h
    · exact ⟨row, List.mem_cons_self, buildCells_eq_error cells⟩
    · obtain ⟨row', hr, found⟩ := ih h
      exact ⟨row', List.mem_cons_of_mem _ hr, found⟩

theorem buildSections_eq_error {before : TableContent}
    (h : buildSections position before ts = .error fault) :
    ∃ section_ ∈ ts, ∃ row ∈ section_.children, ∃ cell ∈ row.children,
      buildAll position cell.children = .error fault := by
  induction ts generalizing before with
  | nil =>
    rw [buildSections] at h
    cases h
  | cons section_ ts ih =>
    rw [buildSections] at h
    obtain rows | ⟨_, _, h⟩ := of_bind_eq_error h
    · exact ⟨section_, List.mem_cons_self, buildRows_eq_error rows⟩
    · obtain ⟨section', hs, found⟩ := ih h
      exact ⟨section', List.mem_cons_of_mem _ hs, found⟩

/-- A table fails only where the content of a cell does. -/
theorem build_table_eq_error (table : t.kind = "table") (h : build position t = .error fault) :
    ∃ cell ∈ t.cells, buildAll position cell.children = .error fault := by
  rw [build_table table] at h
  obtain sections | ⟨_, _, last⟩ := of_bind_eq_error h
  · obtain ⟨section_, hs, row, hr, cell, hc, content⟩ := buildSections_eq_error sections
    exact ⟨cell, List.mem_flatMap.2 ⟨row, List.mem_flatMap.2 ⟨section_, hs, hr⟩, hc⟩, content⟩
  · cases last

end MarkdownTree.Syntax
