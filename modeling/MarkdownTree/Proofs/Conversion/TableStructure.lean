import MarkdownTree.Proofs.Conversion.Elements
import MarkdownTree.Proofs.Conversion.Failures
import MarkdownTree.Proofs.Conversion.VisibleText

/-!
# The structure of a converted table

A table is converted to its headers, one body with all its rows, and its footers, whatever order
they have in the table. `Node.IsTable` says which tables are meant: headers and footers hold cells
or rows of cells, and below a row other nodes can stand between the row and its cells. `TableOf`
is the element that such a table becomes, with the place of every cell and the alignment of its
column.

Cells are aligned when the table is regrouped, and put into rows of their own only when their
header or footer is converted. `RowAs` is what is kept in between: the row that is converted holds
at every position the cell of that position, whichever of the two has made it.
-/

namespace MarkdownTree

namespace Node

/-- A node that can stand between a row and its cells. -/
structure IsGrouping (n : Node) : Prop where
  cell : n.isCell = false
  text : n.isText = false
  unrendered : n.isUnrendered = false
  handling : n.handling = .generic
  value : n.value = none

/-- Below the node there are cells, directly or below nodes that group them. -/
inductive HoldsCells : Node → Prop where
  | intro {n : Node} : (∀ c ∈ n.childList, c.isCell = false → c.IsGrouping) →
      (∀ c ∈ n.childList, c.isCell = false → HoldsCells c) → HoldsCells n

/-- A row with nothing but cells. -/
structure IsRowOfCells (r : Node) : Prop where
  kind : r.kind = "tableRow"
  value : r.value = none
  cells : ∀ c ∈ r.childList, c.isCell = true

/-- A header or footer with nothing but cells, or nothing but rows of cells. -/
structure IsSection (s : Node) : Prop where
  value : s.value = none
  content : (∀ c ∈ s.childList, c.isCell = true) ∨
    s.childList ≠ [] ∧ ∀ r ∈ s.childList, r.IsRowOfCells

/-- A table of sections and rows, in any order and with any other children between them. -/
structure IsTable (n : Node) : Prop where
  kind : n.kind = "table"
  value : n.value = none
  headers : ∀ s ∈ n.childrenOfKind "tableHeader", s.IsSection
  rows : ∀ r ∈ n.childrenOfKind "tableRow", r.value = none ∧ r.HoldsCells
  footers : ∀ s ∈ n.childrenOfKind "tableFooter", s.IsSection

/-- The tag of a cell outside of headers. -/
def cellTag (c : Node) : String := if c.kind = "tableCell" then "td" else "th"

theorem IsSection.of_holdsRows {s : Node} (h : s.IsSection) (rows : s.holdsRows = true) :
    ∀ r ∈ s.childList, r.IsRowOfCells := by
  obtain ⟨filled, kinds⟩ := holdsRows_iff.1 rows
  rcases h.content with cells | ⟨_, rows⟩
  · obtain ⟨c, member⟩ := List.exists_mem_of_ne_nil _ filled
    have cell := cells c member
    simp [isCell, kinds c member] at cell
  · exact rows

theorem IsSection.of_not_holdsRows {s : Node} (h : s.IsSection) (lone : ¬ s.holdsRows = true) :
    ∀ c ∈ s.childList, c.isCell = true := by
  rcases h.content with cells | ⟨filled, rows⟩
  · exact cells
  · exact absurd (holdsRows_iff.2 ⟨filled, fun r member => (rows r member).kind⟩) lone

theorem IsGrouping.isGeneric {n : Node} (h : n.IsGrouping) : n.IsGeneric := by
  constructor <;> simp [h.text, h.unrendered, h.handling]

theorem IsGrouping.alignChild {g : Node} (h : g.IsGrouping) (columns : List (Option String))
    (j : Nat) : (alignChild columns j g).IsGrouping where
  cell := by simpa using h.cell
  text := by simpa [isText] using h.text
  unrendered := by simpa [isUnrendered] using h.unrendered
  handling := by simpa [Node.handling] using h.handling
  value := by simpa using h.value

theorem defaultTag_alignChild {g : Node} (h : g.isCell = false) (columns : List (Option String))
    (j : Nat) : (alignChild columns j g).defaultTag = g.defaultTag := by
  rw [alignChild, if_neg (by simp [h])]
  split
  · rfl
  · rw [alignCells_eq]
    rfl

/-- All children of an aligned row are generic, the cells as well as the groups. -/
theorem HoldsCells.isGeneric {r d : Node} (h : r.HoldsCells) {columns : List (Option String)}
    (member : d ∈ r.childList.mapIdx (Node.alignChild columns)) : d.IsGeneric := by
  obtain ⟨j, hj, rfl⟩ := List.mem_mapIdx.1 member
  cases h with
  | intro grouping _ =>
      cases isCell : (r.childList[j]).isCell with
      | true => exact isGeneric_of_isCell (by simpa using isCell)
      | false =>
          have group := grouping _ (List.getElem_mem hj) isCell
          exact (group.alignChild columns j).isGeneric

theorem defaultTag_of_isCell {c : Node} (h : c.isCell = true) : c.defaultTag = c.cellTag := by
  simp only [isCell, Bool.or_eq_true, decide_eq_true_eq] at h
  rcases h with h | h
  · exact defaultTag_of_get? (by simp only [h, cellTag]; rfl)
  · exact defaultTag_of_get? (by simp only [h, cellTag]; rfl)

end Node

namespace Conversion

open Node Markup

/-! ### The elements of a table -/

section elements

variable (columns : List (Option String))

/-- The element of a cell at position `j` of its row or group: it has the alignment of column `j`,
or null if that column has none. -/
def CellAt (tag : String) (j : Nat) (c : Node) (m : Markup) : Prop :=
  ∃ body, read body = c.visibleText ∧
    m = .element (.name tag)
      [("key", .string (toString j)), ("align", .ofString? (columns[j]?).join)] body

/-- The element of a cell, or of a node that groups cells, at position `j`. -/
inductive GroupedAt : Nat → Node → Markup → Prop where
  | cell {j : Nat} {c : Node} {m : Markup} :
      c.isCell = true → CellAt columns c.cellTag j c m → GroupedAt j c m
  | group {j : Nat} {g : Node} {props : Fields} {ms : List Markup} :
      g.isCell = false → Entries.get? props "key" = some (.string (toString j)) →
      Each GroupedAt 0 g.childList ms → GroupedAt j g (.element (.name g.defaultTag) props ms)

variable (cell : Nat → Node → Markup → Prop)

/-- The element of a row at position `i`, with one child for each child of the row. -/
def RowAt (i : Nat) (r : Node) (m : Markup) : Prop :=
  ∃ ms, m = .element (.name "tr") [("key", .string (toString i))] ms ∧ Each cell 0 r.childList ms

/-- The element of a header or footer at position `i`: its rows, or one row with all its cells. -/
def SectionAt (tag : String) (i : Nat) (s : Node) (m : Markup) : Prop :=
  ∃ rows, m = .element (.name tag) [("key", .string (toString i))] rows ∧
    if s.holdsRows then Each (RowAt cell) 0 s.childList rows
    else ∃ row, rows = [row] ∧ RowAt cell 0 s row

end elements

/-- The element of a table: its headers, one body with all its rows, and its footers. -/
def TableOf (n : Node) (key : String) (m : Markup) : Prop :=
  ∃ heads rows feet,
    m = .element (.name "table") [("key", .string key)]
      (heads ++ .element (.name "tbody") [("key", .string (toString heads.length))] rows :: feet) ∧
    Each (SectionAt (CellAt n.columns "th") "thead") 0 (n.childrenOfKind "tableHeader") heads ∧
    Each (RowAt (GroupedAt n.columns)) 0 (n.childrenOfKind "tableRow") rows ∧
    rows.length = (n.childrenOfKind "tableRow").length ∧
    Each (SectionAt (fun j c => CellAt n.columns c.cellTag j c) "tfoot") (heads.length + 1)
      (n.childrenOfKind "tableFooter") feet

variable {ctx : Context} {columns : List (Option String)} {i j : Nat} {m : Markup}
variable {g : Nat → Node → Node} {cell : Nat → Node → Markup → Prop}

/-! ### Cells -/

/-- The parts of the element of an aligned cell. -/
theorem cell_of_gives (ho : ctx.overrides = []) {d : Node} (isCell : d.isCell = true)
    (align : d.align = columnAlignment columns j) (hm : MadeAt ctx j d m) :
    ∃ frames body, Yields (content d (convertEach ctx frames d.childList)) body ∧
      m = .element (.name d.cellTag)
        [("key", .string (toString j)), ("align", .ofString? (columns[j]?).join)] body := by
  obtain ⟨frames, yields⟩ := hm
  obtain ⟨props, body, same, hp, frames', content⟩ :=
    (ensures_assembled ho (isGeneric_of_isCell isCell) frames).of_yields yields
  rw [rewritten_of_generic (handling_of_isCell isCell)] at same hp content
  cases same
  refine ⟨frames', body, content, ?_⟩
  rw [props_of_cell ho hp isCell, defaultTag_of_isCell isCell, align, columnAlignment]
  cases (columns[j]?).join <;> rfl

theorem cellAt_of_gives (ho : ctx.overrides = []) {c d : Node} (isCell : d.isCell = true)
    (align : d.align = columnAlignment columns j) (text : d.visibleText = c.visibleText)
    (hm : MadeAt ctx j d m) : CellAt columns d.cellTag j c m := by
  obtain ⟨_, body, _, rfl⟩ := cell_of_gives ho isCell align hm
  obtain ⟨frames, yields⟩ := hm
  have shown := (ensures_read_convert ctx frames d (toString j)).of_yields yields
  exact ⟨body, by simpa [text] using shown, rfl⟩

/-- The nodes between a row and its cells are followed down by induction on the shape of the row.
Each of them and each cell is keyed and aligned by its place below its own parent. -/
theorem each_groupedAt (ho : ctx.overrides = []) {r : Node} (h : r.HoldsCells) {ms : List Markup}
    (each : Each (MadeAt ctx) 0 (r.childList.mapIdx (alignChild columns)) ms) :
    Each (GroupedAt columns) 0 r.childList ms := by
  induction h generalizing ms with
  | @intro r grouping nested ih =>
      refine Each.of_mapIdx (g := alignChild columns) (by simpa using each) ?_
      intro j c e member hm
      cases isCell : c.isCell with
      | true =>
          refine .cell isCell ?_
          have made := cellAt_of_gives (c := c) ho (by simp [isCell]) (align_alignChild isCell)
            (visibleText_alignChild columns j c) hm
          simpa only [cellTag, kind_alignChild] using made
      | false =>
          have group := (grouping c member isCell).alignChild columns j
          have below : (alignChild columns j c).childList =
              c.childList.mapIdx (alignChild columns) := childList_alignChild isCell
          obtain ⟨props, body, same, hp, kids⟩ := element_of_gives ho group.isGeneric hm
            group.value (by
              rw [rewritten_of_generic group.handling, below]
              exact fun d => (nested c member isCell).isGeneric)
          rw [rewritten_of_generic group.handling] at hp kids
          rw [below] at kids
          cases same
          rw [defaultTag_alignChild isCell]
          exact .group isCell (key_of_props ho hp) (ih c member isCell kids)

/-! ### Rows -/

/-- The row `r'` is converted in the place of `r`: it has a child for each child of `r`, made of it
and its position by `g`. -/
structure RowAs (g : Nat → Node → Node) (r r' : Node) : Prop where
  kind : r'.kind = "tableRow"
  value : r'.value = none
  childList : r'.childList = r.childList.mapIdx g

theorem RowAs.part {r r' : Node} (h : RowAs g r r') : r'.kind ∈ tableParts := by
  simp [h.kind, tableParts]

theorem rowAt_of_gives (ho : ctx.overrides = []) {r r' : Node} (as : RowAs g r r')
    (generic : ∀ d ∈ r.childList.mapIdx g, d.IsGeneric)
    (made : ∀ {ms}, Each (MadeAt ctx) 0 (r.childList.mapIdx g) ms → Each cell 0 r.childList ms)
    (hm : MadeAt ctx i r' m) : RowAt cell i r m := by
  have plain : r'.rewritten = r' :=
    rewritten_of_generic (by simp [handling, Handling.ofKind, as.kind])
  have children : r'.rewritten.childList = r.childList.mapIdx g := by rw [plain, as.childList]
  obtain ⟨body, same, kids⟩ := part_of_gives ho as.part as.value (children ▸ generic) hm
  cases same
  refine ⟨body, ?_, made (children ▸ kids)⟩
  rw [defaultTag_of_get? (by rw [as.kind]; rfl)]

/-- The row of a body keeps its cells below the nodes that group them. -/
theorem rowAt_of_holdsCells (ho : ctx.overrides = []) {r r' : Node}
    (as : RowAs (alignChild columns) r r') (h : r.HoldsCells) (hm : MadeAt ctx i r' m) :
    RowAt (GroupedAt columns) i r m :=
  rowAt_of_gives ho as (fun _ => h.isGeneric) (each_groupedAt ho h) hm

/-- What `g` makes of cells: cells with the text of the original and the alignment of the column,
whose tags are given. -/
structure AlignsCells (columns : List (Option String)) (tag : Node → String)
    (g : Nat → Node → Node) : Prop where
  isCell {c : Node} (j : Nat) : c.isCell = true → (g j c).isCell = true
  align {c : Node} (j : Nat) : c.isCell = true → (g j c).align = columnAlignment columns j
  text (j : Nat) (c : Node) : (g j c).visibleText = c.visibleText
  cellTag {c : Node} (j : Nat) : c.isCell = true → (g j c).cellTag = tag c

theorem alignsCells_alignChild : AlignsCells columns cellTag (alignChild columns) where
  isCell j h := by simpa using h
  align j h := align_alignChild h
  text j c := visibleText_alignChild columns j c
  cellTag j h := by simp [cellTag]

theorem alignsCells_asHeaderCell :
    AlignsCells columns (fun _ => "th") fun j c => asHeaderCell (alignChild columns j c) where
  isCell j h := by
    rw [asHeaderCell]
    split
    · rfl
    · simpa using h
  align j h := by
    rw [asHeaderCell]
    split <;> exact align_alignChild h
  text j c := by rw [visibleText_asHeaderCell, visibleText_alignChild]
  cellTag {c} j h := by
    rw [asHeaderCell]
    split
    · rfl
    · next other => rw [cellTag, if_neg other]

theorem rowAt_of_cells {tag : Node → String} (ho : ctx.overrides = [])
    (aligns : AlignsCells columns tag g) {r r' : Node} (as : RowAs g r r')
    (cells : ∀ c ∈ r.childList, c.isCell = true) (hm : MadeAt ctx i r' m) :
    RowAt (fun j c => CellAt columns (tag c) j c) i r m := by
  refine rowAt_of_gives ho as ?_ ?_ hm
  · intro d member
    obtain ⟨j, hj, rfl⟩ := List.mem_mapIdx.1 member
    exact isGeneric_of_isCell (aligns.isCell j (cells _ (List.getElem_mem hj)))
  · intro ms each
    refine Each.of_mapIdx (g := g) (by simpa using each) ?_
    intro j c e member given
    have isCell := cells c member
    rw [← aligns.cellTag j isCell]
    exact cellAt_of_gives ho (aligns.isCell j isCell) (aligns.align j isCell) (aligns.text j c)
      given

/-! ### Headers and footers -/

/-- The section `s'` is converted in the place of `s`: it is rewritten to the rows of `s`, or to
one row with its cells. -/
def SectionAs (g : Nat → Node → Node) (s s' : Node) : Prop :=
  if s.holdsRows then
    ∃ row : Nat → Node → Node, s'.rewritten.childList = s.childList.mapIdx row ∧
      ∀ j, ∀ r ∈ s.childList, RowAs g r (row j r)
  else ∃ row, s'.rewritten.childList = [row] ∧ RowAs g s row

theorem SectionAs.isGeneric {s s' : Node} (h : SectionAs g s s') :
    ∀ d ∈ s'.rewritten.childList, d.IsGeneric := by
  unfold SectionAs at h
  split at h
  · obtain ⟨row, made, rowAs⟩ := h
    rw [made]
    intro d member
    obtain ⟨j, hj, rfl⟩ := List.mem_mapIdx.1 member
    exact isGeneric_of_tablePart (rowAs j _ (List.getElem_mem hj)).part
  · obtain ⟨row, made, rowAs⟩ := h
    rw [made]
    intro d member
    exact List.mem_singleton.1 member ▸ isGeneric_of_tablePart rowAs.part

theorem sectionAt_of_gives {tag : Node → String} (ho : ctx.overrides = [])
    (aligns : AlignsCells columns tag g) {s s' : Node}
    (part : s'.kind ∈ tableParts) (value : s'.value = none)
    (as : SectionAs g s s') (h : s.IsSection) (hm : MadeAt ctx i s' m) :
    SectionAt (fun j c => CellAt columns (tag c) j c) s'.defaultTag i s m := by
  obtain ⟨body, same, kids⟩ := part_of_gives ho part value as.isGeneric hm
  cases same
  refine ⟨body, rfl, ?_⟩
  unfold SectionAs at as
  split at as
  · next rows =>
    obtain ⟨row, made, rowAs⟩ := as
    rw [made] at kids
    rw [if_pos rows]
    refine Each.of_mapIdx (g := row) (by simpa using kids) ?_
    intro j r e member given
    exact rowAt_of_cells ho aligns (rowAs j r member) (h.of_holdsRows rows r member).cells given
  · next lone =>
    obtain ⟨row, made, rowAs⟩ := as
    rw [made] at kids
    obtain ⟨e, rfl, given⟩ := kids.of_singleton
    rw [if_neg lone]
    exact ⟨e, rfl, rowAt_of_cells ho aligns rowAs (h.of_not_holdsRows lone) given⟩

theorem isCell_of_row {r : Node} (h : r.kind = "tableRow") : r.isCell = false := by
  simp [isCell, h]

/-- The rows of a header are rewritten after its cells were aligned, one by one. -/
theorem sectionAs_header {s : Node} (h : s.IsSection) (kind : s.kind = "tableHeader") :
    SectionAs (fun j c => asHeaderCell (alignChild columns j c)) s (alignCells columns s) := by
  have rewriting : (alignCells columns s).rewritten = (alignCells columns s).headerRows := by
    simp [rewritten, handling, Handling.ofKind, kind]
  unfold SectionAs
  rw [rewriting, headerRows, holdsRows_alignCells, childList_withChildren, childList_alignCells]
  split
  · next rows =>
    refine ⟨fun j r => (alignChild columns j r).withChildren
      ((alignChild columns j r).childList.map asHeaderCell), map_mapIdx _ _ _, ?_⟩
    intro j r member
    have row := h.of_holdsRows rows r member
    refine ⟨by simp [row.kind], by simp [row.value], ?_⟩
    rw [childList_withChildren, childList_alignChild (isCell_of_row row.kind), map_mapIdx]
  · next lone => exact ⟨_, rfl, rfl, rfl, map_mapIdx _ _ _⟩

theorem sectionAs_footer {s : Node} (h : s.IsSection) (kind : s.kind = "tableFooter") :
    SectionAs (alignChild columns) s (alignCells columns s) := by
  have rewriting : (alignCells columns s).rewritten = (alignCells columns s).footerRows := by
    simp [rewritten, handling, Handling.ofKind, kind]
  unfold SectionAs
  rw [rewriting, footerRows, holdsRows_alignCells]
  split
  · next rows =>
    refine ⟨alignChild columns, childList_alignCells columns s, ?_⟩
    intro j r member
    have row := h.of_holdsRows rows r member
    exact ⟨by simp [row.kind], by simp [row.value], childList_alignChild (isCell_of_row row.kind)⟩
  · next lone => exact ⟨_, rfl, rfl, rfl, childList_alignCells columns s⟩

/-! ### Tables -/

theorem kind_of_aligned {n d : Node} {kind : String}
    (member : d ∈ (n.childrenOfKind kind).map (alignCells columns)) : d.kind = kind := by
  obtain ⟨s, found, rfl⟩ := List.mem_map.1 member
  rw [kind_alignCells, kind_of_mem_childrenOfKind found]

/-- The element of a body holds those of its rows. -/
theorem body_of_gives (ho : ctx.overrides = []) {rows : List Node}
    (kinds : ∀ r ∈ rows, r.kind = "tableRow") (hm : MadeAt ctx i (tableBody rows) m) :
    ∃ body, m = .element (.name "tbody") [("key", .string (toString i))] body ∧
      Each (MadeAt ctx) 0 rows body := by
  have plain : (tableBody rows).rewritten = tableBody rows := rewritten_of_generic rfl
  obtain ⟨body, same, kids⟩ := part_of_gives ho (by simp [tableBody, tableParts]) rfl (by
    rw [plain]
    intro d member
    exact isGeneric_of_tablePart (by simp [kinds d member, tableParts])) hm
  rw [plain] at kids
  cases same
  exact ⟨body, rfl, kids⟩

/-- A body has an element for each of its rows. -/
theorem each_rowAt_of_body (ho : ctx.overrides = []) {n : Node} (h : n.IsTable)
    (hm : MadeAt ctx i
      (tableBody ((n.childrenOfKind "tableRow").map (alignCells columns))) m) :
    ∃ rows, m = .element (.name "tbody") [("key", .string (toString i))] rows ∧
      Each (RowAt (GroupedAt columns)) 0 (n.childrenOfKind "tableRow") rows := by
  obtain ⟨body, rfl, kids⟩ := body_of_gives ho (fun _ => kind_of_aligned) hm
  refine ⟨body, rfl, Each.of_map kids fun j r e member given => ?_⟩
  have kind := kind_of_mem_childrenOfKind member
  obtain ⟨value, cells⟩ := h.rows r member
  have as : RowAs (alignChild columns) r (alignCells columns r) :=
    ⟨by simp [kind], by simp [value], childList_alignCells columns r⟩
  exact rowAt_of_holdsCells ho as cells given

/-- The element of a table holds those of the parts that it is rewritten to. -/
theorem table_of_gives (ho : ctx.overrides = []) {n : Node} (kind : n.kind = "table")
    (value : n.value = none) {key : String} {m? : Option Markup} (hm : Gives ctx key n m?) :
    ∃ body, m? = some (.element (.name "table") [("key", .string key)] body) ∧
      Each (MadeAt ctx) 0 n.restructureTable.childList body := by
  have rewriting : n.rewritten = n.restructureTable := by
    simp [rewritten, handling, Handling.ofKind, kind]
  have generic : ∀ d ∈ n.rewritten.childList, d.IsGeneric := by
    intro d member
    refine isGeneric_of_tablePart ?_
    rw [rewriting, childList_restructureTable, List.mem_append, List.mem_cons] at member
    rcases member with member | rfl | member
    · simp [kind_of_aligned member, tableParts]
    · simp [tableBody, tableParts]
    · simp [kind_of_aligned member, tableParts]
  obtain ⟨body, rfl, kids⟩ := part_of_gives ho (by simp [kind, tableParts]) value generic hm
  refine ⟨body, ?_, rewriting ▸ kids⟩
  rw [defaultTag_of_get? (by rw [kind]; rfl)]

theorem tableOf_of_gives (ho : ctx.overrides = []) {n : Node} (h : n.IsTable) {key : String}
    {m? : Option Markup} (hm : Gives ctx key n m?) : ∃ m, m? = some m ∧ TableOf n key m := by
  obtain ⟨body, rfl, kids⟩ := table_of_gives ho h.kind h.value hm
  rw [childList_restructureTable] at kids
  obtain ⟨heads, rest, rfl, first, others⟩ := kids.of_append
  rw [← first.length_eq, Nat.zero_add] at others
  cases others with
  | @cons _ _ tbody _ feet middle last =>
      obtain ⟨rows, rfl, each⟩ := each_rowAt_of_body ho h middle
      refine ⟨_, rfl, heads, rows, feet, rfl, ?_, each, each.length_eq, ?_⟩
      · refine first.of_map fun j s e member given => ?_
        have kind := kind_of_mem_childrenOfKind member
        have shape := h.headers s member
        have made := sectionAt_of_gives ho alignsCells_asHeaderCell
          (by simp [kind, tableParts]) (by simp [shape.value]) (sectionAs_header shape kind) shape
          given
        rwa [defaultTag_of_get? (by rw [kind_alignCells, kind]; rfl)] at made
      · refine last.of_map fun j s e member given => ?_
        have kind := kind_of_mem_childrenOfKind member
        have shape := h.footers s member
        have made := sectionAt_of_gives ho alignsCells_alignChild
          (by simp [kind, tableParts]) (by simp [shape.value]) (sectionAs_footer shape kind) shape
          given
        rwa [defaultTag_of_get? (by rw [kind_alignCells, kind]; rfl)] at made

/-- A table that is converted without overrides becomes an element of this structure. Otherwise
its nodes nest deeper than they may, or references must have a definition and one has none. -/
theorem convert_regroups_table {n : Node} (h : n.IsTable)
    (definitions : Entries (Option String) Definition) (settings : Settings)
    (stackLimit : Option Nat) (key : Option String) :
    match (Converter.convert { context := { definitions, settings, stackLimit } } n key).1.1 with
    | .ok m? => ∃ m, m? = some m ∧ TableOf n (key.getD "0") m
    | .error e => e = .tooDeep settings.maxDepth ∨
        settings.strictReferences = true ∧ ∃ d : Node,
          Entries.get? definitions d.identifier = none ∧ e = .unresolved d.kind d.identifier := by
  split
  · next m? run =>
    obtain ⟨q, run⟩ := start_fst_eq.1 run
    exact tableOf_of_gives rfl h ⟨0, _, q, run⟩
  · next e run =>
    obtain ⟨cause, reported⟩ := cause_of_convert _ n key run
    cases cause with
    | tooDeep => exact .inl rfl
    | stackExhausted => exact absurd rfl reported
    | unresolved d strict missing => exact .inr ⟨strict, d, missing, rfl⟩
    | props own _ _ => cases own

/-- A cell with the given text. -/
def textCell (text : String) : Node := branch "tableCell" [leaf "text" text]

/-- A table whose rows, headers and footer are mixed. One header holds a row and one holds cells;
in the second row a group stands before a cell. The paragraph is no part of a table. -/
def mixedTable : Node :=
  { branch "table" [
      branch "tableRow" [textCell "1", textCell "2"],
      branch "tableFooter" [textCell "sum"],
      branch "tableHeader" [branch "tableRow" [textCell "a"]],
      branch "paragraph" [],
      branch "tableRow" [branch "span" [textCell "3", textCell "4"], textCell "5"],
      branch "tableHeader" [textCell "b"]] with
    align := some (.columns [some "left", none, some "right"]) }

theorem isCell_textCell (text : String) : (textCell text).isCell = true := rfl

theorem holdsCells_branch (kind : String) (texts : List String) :
    (branch kind (texts.map textCell)).HoldsCells := by
  refine .intro ?_ ?_ <;> intro c member other
  · obtain ⟨text, _, rfl⟩ := List.mem_map.1 member
    cases other
  · obtain ⟨text, _, rfl⟩ := List.mem_map.1 member
    cases other

theorem isRowOfCells_branch (texts : List String) :
    (branch "tableRow" (texts.map textCell)).IsRowOfCells where
  kind := rfl
  value := rfl
  cells := by
    intro c member
    obtain ⟨text, _, rfl⟩ := List.mem_map.1 member
    exact isCell_textCell text

theorem mixedTable_isTable : mixedTable.IsTable where
  kind := rfl
  value := rfl
  headers := by
    have found : mixedTable.childrenOfKind "tableHeader" =
      [branch "tableHeader" [branch "tableRow" [textCell "a"]],
        branch "tableHeader" [textCell "b"]] := rfl
    simp only [found, List.forall_mem_cons]
    refine ⟨⟨rfl, .inr ⟨by simp [branch, childList], ?_⟩⟩, ⟨rfl, .inl ?_⟩, by simp⟩
    · exact List.forall_mem_singleton.2 (isRowOfCells_branch ["a"])
    · exact List.forall_mem_singleton.2 (isCell_textCell "b")
  rows := by
    have found : mixedTable.childrenOfKind "tableRow" =
      [branch "tableRow" [textCell "1", textCell "2"],
        branch "tableRow" [branch "span" [textCell "3", textCell "4"], textCell "5"]] := rfl
    have last : ¬ (textCell "5").isCell = false := by simp [isCell_textCell]
    simp only [found, List.forall_mem_cons]
    refine ⟨⟨rfl, holdsCells_branch "tableRow" ["1", "2"]⟩, ⟨rfl, .intro ?_ ?_⟩, by simp⟩
    · exact List.forall_mem_cons.2 ⟨fun _ => ⟨rfl, rfl, rfl, rfl, rfl⟩,
        List.forall_mem_singleton.2 fun other => absurd other last⟩
    · exact List.forall_mem_cons.2 ⟨fun _ => holdsCells_branch "span" ["3", "4"],
        List.forall_mem_singleton.2 fun other => absurd other last⟩
  footers := by
    have found : mixedTable.childrenOfKind "tableFooter" =
      [branch "tableFooter" [textCell "sum"]] := rfl
    rw [found, List.forall_mem_singleton]
    exact ⟨rfl, .inl (List.forall_mem_singleton.2 (isCell_textCell "sum"))⟩

theorem mixedTable_regrouped :
    mixedTable.IsTable ∧ ∃ m, (Converter.convert { context := {} } mixedTable none).1.1 =
      .ok (some m) ∧ TableOf mixedTable "0" m := by
  refine ⟨mixedTable_isTable, ?_⟩
  have ok : (Converter.convert { context := {} } mixedTable none).1.1.isOk = true := by
    decide +kernel
  obtain ⟨m?, run⟩ := exists_of_isOk ok
  have regrouped := convert_regroups_table mixedTable_isTable [] {} usualStackLimit none
  rw [run] at regrouped
  obtain ⟨m, rfl, table⟩ := regrouped
  exact ⟨m, run, table⟩

end Conversion

end MarkdownTree
