import MarkdownTree.Proofs.Conversion.Results
import MarkdownTree.Proofs.Conversion.TableStructure
import MarkdownTree.Proofs.Syntax.Alignment
import MarkdownTree.Proofs.Syntax.Tables

/-!
# Tables

A table of the syntax tree has a head and bodies; as a node it has a header, rows and alignments,
and as an element it has a head and one body again, with an alignment at each cell. `RowElement` is
the element of a row of the syntax tree, with no word about what the row was in between.

The two ends meet in `RowOf`: the nodes of a row stand for its cells in order, and so do those that
are put in their place when the cells are aligned.
-/

namespace MarkdownTree

open Node Syntax Conversion

/-- Relations between three lists are composed position by position. -/
theorem Each.of_forall₂ {R : α → β → Prop} {S : Nat → β → γ → Prop} {T : Nat → α → γ → Prop}
    {i : Nat} {as : List α} {bs : List β} {cs : List γ} (first : List.Forall₂ R as bs)
    (second : Each S i bs cs) (both : ∀ j a b c, R a b → S j b c → T j a c) : Each T i as cs := by
  induction first generalizing i cs with
  | nil =>
    cases second
    exact .nil
  | cons head _ ih =>
    cases second with
    | cons head' tail => exact .cons (both _ _ _ _ head head') (ih tail)

/-- The style of a cell. -/
def Syntax.Tree.style (cell : Tree) : List Char :=
  ((Entries.get? cell.attrs "style").getD (.string "")).text.toList

namespace Conversion

/-- The element of a cell at the given position: it has the alignment of its column, or null if
that has none, and holds what the nodes are converted to. -/
def CellHolding (ctx : Context) (names : List (Option String)) (tag : String) (j : Nat)
    (ns : List Node) (m : Markup) : Prop :=
  ∃ body, ConvertTo ctx ns body ∧ m = .element (.name tag)
    [("key", .string (toString j)), ("align", .ofString? (names[j]?).join)] body

/-- The element of a cell of the syntax tree, which holds the nodes of its own content. -/
def CellElement (ctx : Context) (position : Bool) (names : List (Option String)) (tag : String)
    (j : Nat) (cell : Tree) (m : Markup) : Prop :=
  ∃ ns, buildAll position cell.children = .ok ns ∧ CellHolding ctx names tag j ns m

/-- The element of a row at the given position, with one element for each cell. -/
def RowElement (ctx : Context) (position : Bool) (names : List (Option String)) (tag : String)
    (i : Nat) (row : Tree) (m : Markup) : Prop :=
  ∃ cells, m = .element (.name "tr") [("key", .string (toString i))] cells ∧
    Each (CellElement ctx position names tag) 0 row.children cells

/-- The element of a table with the given row in its head and the given rows in its body. -/
def TableElement (ctx : Context) (position : Bool) (names : List (Option String)) (row : Tree)
    (rows : List Tree) (key : String) (m : Markup) : Prop :=
  ∃ tr trs, m = .element (.name "table") [("key", .string key)]
      [.element (.name "thead") [("key", .string "0")] [tr],
        .element (.name "tbody") [("key", .string "1")] trs] ∧
    RowElement ctx position names "th" 0 row tr ∧
    Each (RowElement ctx position names "td") 0 rows trs

variable {ctx : Context} {position : Bool} {names : List (Option String)} {tag : String}
  {i j : Nat} {m : Markup} {g : Nat → Node → Node}

/-! ### The nodes of rows -/

/-- What `g` makes of cells holds the same. -/
structure KeepsContent (g : Nat → Node → Node) : Prop where
  childList {c : Node} (j : Nat) : c.isCell = true → (g j c).childList = c.childList
  value {c : Node} (j : Nat) : c.isCell = true → (g j c).value = c.value

theorem keepsContent_alignChild : KeepsContent (alignChild names) where
  childList j h := by
    rw [alignChild, if_pos h]
    rfl
  value j _ := by simp

theorem keepsContent_asHeaderCell :
    KeepsContent fun j c => asHeaderCell (alignChild names j c) where
  childList {c} j h := by
    have aligned : (alignChild names j c).childList = c.childList :=
      keepsContent_alignChild.childList j h
    rw [← aligned, asHeaderCell]
    split <;> rfl
  value {c} j h := by
    have aligned : (alignChild names j c).value = c.value := keepsContent_alignChild.value j h
    rw [← aligned, asHeaderCell]
    split <;> rfl

/-- The node of a row of the syntax tree, with the nodes of its cells. -/
structure RowOf (position : Bool) (kind : String) (row : Tree) (r : Node) : Prop where
  kind : r.kind = kind
  value : r.value = none
  cells : List.Forall₂ (CellBecomes position) row.children r.childList

theorem rowOf_of_rowBecomes {r : Tree × Tree} {n : Node} (h : RowBecomes position r n) :
    RowOf position (if r.1.kind = "thead" then "tableHeader" else "tableRow") r.2 n := by
  obtain ⟨cells, made, rfl⟩ := h
  unfold rowNode
  split <;> exact ⟨rfl, rfl, made⟩

theorem RowOf.eq_of_mem {kind : String} {row : Tree} {r c : Node} (h : RowOf position kind row r)
    (hc : c ∈ r.childList) : c.kind = "tableCell" ∧ c.value = none := by
  obtain ⟨_, _, _, _, rfl⟩ := exists_of_forall₂ h.cells hc
  exact ⟨rfl, rfl⟩

theorem RowOf.isCell {kind : String} {row : Tree} {r c : Node} (h : RowOf position kind row r)
    (hc : c ∈ r.childList) : c.isCell = true := by
  simp [Node.isCell, (h.eq_of_mem hc).1]

/-- The table has a header with the cells of the given row, and a row of its own for each of the
other rows. -/
structure TableOfRows (position : Bool) (row : Tree) (trs : List Tree) (header : Node)
    (rows : List Node) (n : Node) : Prop where
  kind : n.kind = "table"
  value : n.value = none
  childList : n.childList = header :: rows
  head : RowOf position "tableHeader" row header
  body : List.Forall₂ (RowOf position "tableRow") trs rows

theorem TableOfRows.childList_restructureTable {row : Tree} {trs : List Tree} {header n : Node}
    {rows : List Node} (h : TableOfRows position row trs header rows n) :
    n.restructureTable.childList =
      [alignCells n.columns header, tableBody (rows.map (alignCells n.columns))] := by
  have kinds : ∀ r ∈ rows, r.kind = "tableRow" := fun r hr => by
    obtain ⟨_, _, row⟩ := exists_of_forall₂ h.body hr
    exact row.kind
  have headers : n.childrenOfKind "tableHeader" = [header] := by
    have none : rows.filter (·.kind = "tableHeader") = [] :=
      List.filter_eq_nil_iff.2 fun r hr => by simp [kinds r hr]
    simp [childrenOfKind, h.childList, h.head.kind, none]
  have tableRows : n.childrenOfKind "tableRow" = rows := by
    have all : rows.filter (·.kind = "tableRow") = rows :=
      List.filter_eq_self.2 fun r hr => by simp [kinds r hr]
    simp [childrenOfKind, h.childList, h.head.kind, all]
  have footers : n.childrenOfKind "tableFooter" = [] := by
    refine List.filter_eq_nil_iff.2 fun r hr => ?_
    rw [h.childList] at hr
    rcases List.mem_cons.1 hr with rfl | hr
    · simp [h.head.kind]
    · simp [kinds r hr]
  rw [Node.childList_restructureTable, headers, tableRows, footers]
  rfl

/-- A header of cells is rewritten to one row. -/
theorem exists_row_of_header {row : Tree} {s : Node} (of : RowOf position "tableHeader" row s)
    (names : List (Option String)) :
    ∃ r', (alignCells names s).rewritten.childList = [r'] ∧
      RowAs (fun j c => asHeaderCell (alignChild names j c)) s r' := by
  have as : SectionAs (fun j c => asHeaderCell (alignChild names j c)) s (alignCells names s) :=
    sectionAs_header ⟨of.value, .inl fun _ => of.isCell⟩ of.kind
  have lone : ¬s.holdsRows = true := by
    rw [holdsRows_iff]
    rintro ⟨filled, rows⟩
    obtain ⟨c, hc⟩ := List.exists_mem_of_ne_nil _ filled
    exact absurd ((of.eq_of_mem hc).1.symm.trans (rows c hc)) (by decide)
  rwa [SectionAs, if_neg lone] at as

theorem RowOf.rowAs_alignCells {row : Tree} {r : Node} (of : RowOf position "tableRow" row r) :
    RowAs (alignChild names) r (alignCells names r) :=
  ⟨by simp [of.kind], by simp [of.value], childList_alignCells names r⟩

/-! ### The element -/

/-- A row of cells that is converted becomes the element of the row of the syntax tree of which it
was made. -/
theorem rowElement_of_gives (ho : ctx.overrides = []) {kind : String} {row : Tree} {r r' : Node}
    (of : RowOf position kind row r) (as : RowAs g r r') {tags : Node → String}
    (aligns : AlignsCells names tags g) (keeps : KeepsContent g)
    (tagged : ∀ c : Node, c.kind = "tableCell" → tags c = tag) (hm : MadeAt ctx i r' m) :
    RowElement ctx position names tag i row m := by
  have generic : ∀ d ∈ r.childList.mapIdx g, d.IsGeneric := by
    intro d hd
    obtain ⟨j, hj, rfl⟩ := List.mem_mapIdx.1 hd
    exact isGeneric_of_isCell (aligns.isCell j (of.isCell (List.getElem_mem hj)))
  have held {ms : List Markup} (each : Each (MadeAt ctx) 0 (r.childList.mapIdx g) ms) :
      Each (fun j c => CellHolding ctx names tag j c.childList) 0 r.childList ms := by
    refine Each.of_mapIdx (g := g) (by simpa using each) fun j c e hc given => ?_
    obtain ⟨kind, value⟩ := of.eq_of_mem hc
    have isCell := of.isCell hc
    obtain ⟨frames, body, content, rfl⟩ :=
      cell_of_gives ho (aligns.isCell j isCell) (aligns.align j isCell) given
    refine ⟨body, ?_, ?_⟩
    · rw [← keeps.childList j isCell]
      exact convertTo_of_content ((keeps.value j isCell).trans value) content
    · rw [aligns.cellTag j isCell, tagged c kind]
  obtain ⟨elements, rfl, each⟩ := rowAt_of_gives ho as generic held hm
  refine ⟨elements, rfl, Each.of_forall₂ of.cells each ?_⟩
  rintro j cell c e ⟨ns, built, rfl⟩ holding
  exact ⟨ns, built, holding⟩

/-- A header of cells becomes a head with one row. -/
theorem head_of_gives (ho : ctx.overrides = []) {row : Tree} {s : Node}
    (of : RowOf position "tableHeader" row s) (hm : MadeAt ctx i (alignCells names s) m) :
    ∃ tr, m = .element (.name "thead") [("key", .string (toString i))] [tr] ∧
      RowElement ctx position names "th" 0 row tr := by
  obtain ⟨r', made, as⟩ := exists_row_of_header of names
  have part : (alignCells names s).kind ∈ tableParts := by simp [of.kind, tableParts]
  have generic : ∀ d ∈ (alignCells names s).rewritten.childList, d.IsGeneric := by
    rw [made, List.forall_mem_singleton]
    exact isGeneric_of_tablePart as.part
  obtain ⟨body, same, kids⟩ := part_of_gives ho part (by simp [of.value]) generic hm
  obtain ⟨tr, rfl, given⟩ := (made ▸ kids).of_singleton
  cases same
  refine ⟨tr, ?_, rowElement_of_gives ho of as alignsCells_asHeaderCell
    keepsContent_asHeaderCell (fun _ _ => rfl) given⟩
  rw [defaultTag_of_get? (by rw [kind_alignCells, of.kind]; rfl)]

/-- A body of rows of cells becomes a body with their elements. -/
theorem rows_of_gives (ho : ctx.overrides = []) {trs : List Tree} {rows : List Node}
    (of : List.Forall₂ (RowOf position "tableRow") trs rows)
    (hm : MadeAt ctx i (tableBody (rows.map (alignCells names))) m) :
    ∃ elements, m = .element (.name "tbody") [("key", .string (toString i))] elements ∧
      Each (RowElement ctx position names "td") 0 trs elements := by
  have kinds : ∀ r ∈ rows.map (alignCells names), r.kind = "tableRow" := by
    rw [List.forall_mem_map]
    intro r hr
    obtain ⟨_, _, row⟩ := exists_of_forall₂ of hr
    exact row.rowAs_alignCells.kind
  obtain ⟨elements, rfl, kids⟩ := body_of_gives ho kinds hm
  have each : Each (fun j r => MadeAt ctx j (alignCells names r)) 0 rows elements :=
    kids.of_map fun _ _ _ _ given => given
  refine ⟨elements, rfl, Each.of_forall₂ of each fun j tr r e row given => ?_⟩
  exact rowElement_of_gives ho row row.rowAs_alignCells alignsCells_alignChild
    keepsContent_alignChild (fun c h => if_pos h) given

/-- A table with one header and rows becomes an element with one head and one body. -/
theorem tableElement_of_gives (ho : ctx.overrides = []) {n header : Node} {rows : List Node}
    {row : Tree} {trs : List Tree} (h : TableOfRows position row trs header rows n)
    {key : String} {m? : Option Markup} (hm : Gives ctx key n m?) :
    ∃ m, m? = some m ∧ TableElement ctx position n.columns row trs key m := by
  obtain ⟨parts, rfl, each⟩ := table_of_gives ho h.kind h.value hm
  rw [h.childList_restructureTable] at each
  cases each with
  | cons first rest =>
    obtain ⟨tbody, rfl, second⟩ := rest.of_singleton
    obtain ⟨tr, rfl, headRow⟩ := head_of_gives ho h.head first
    obtain ⟨elements, rfl, bodyRows⟩ := rows_of_gives ho h.body second
    exact ⟨_, rfl, tr, elements, rfl, headRow, bodyRows⟩

/-! ### The depth -/

theorem need_of_isGeneric {n : Node} (h : n.IsGeneric) (value : n.value = none) :
    n.need = 1 + needOfAll n.rewritten.childList := by
  have handled {kind : String} (same : n.kind = kind) : n.handling = Handling.ofKind kind := by
    rw [Node.handling, same]
  rw [need_of_content h.text (fun kind => h.code (handled kind))
    (fun kind => h.html (handled kind)) h.unrendered
    (fun kind => absurd (handled kind) h.listItem), contentNeed, value_rewritten, value]
  rfl

/-- A row needs two levels more than the content of its cells. -/
theorem need_row_le {kind : String} {row : Tree} {r r' : Node} {k : Nat}
    (of : RowOf position kind row r) (as : RowAs g r r') {tags : Node → String}
    (aligns : AlignsCells names tags g) (keeps : KeepsContent g)
    (fits : ∀ c ∈ r.childList, needOfAll c.childList ≤ k) : r'.need ≤ 2 + k := by
  have plain : r'.rewritten = r' :=
    rewritten_of_generic (by simp [handling, Handling.ofKind, as.kind])
  have cells : needOfAll (r.childList.mapIdx g) ≤ 1 + k := by
    refine needOfAll_le_iff.2 fun d hd => ?_
    obtain ⟨j, hj, rfl⟩ := List.mem_mapIdx.1 hd
    have hc := List.getElem_mem hj
    have isCell := aligns.isCell j (of.isCell hc)
    rw [need_of_isGeneric (isGeneric_of_isCell isCell)
        ((keeps.value j (of.isCell hc)).trans (of.eq_of_mem hc).2),
      rewritten_of_generic (handling_of_isCell isCell), keeps.childList j (of.isCell hc)]
    exact Nat.add_le_add_left (fits _ hc) 1
  rw [need_of_isGeneric (isGeneric_of_tablePart as.part) as.value, plain, as.childList]
  omega

/-- A table needs four levels more than the content of its cells. -/
theorem need_table_le {n header : Node} {rows : List Node} {row : Tree} {trs : List Tree} {k : Nat}
    (h : TableOfRows position row trs header rows n)
    (fits : ∀ r ∈ n.childList, ∀ c ∈ r.childList, needOfAll c.childList ≤ k) :
    n.need ≤ 4 + k := by
  rw [h.childList, List.forall_mem_cons] at fits
  have head : (alignCells n.columns header).need ≤ 3 + k := by
    obtain ⟨r', made, as⟩ := exists_row_of_header h.head n.columns
    have row := need_row_le h.head as alignsCells_asHeaderCell keepsContent_asHeaderCell fits.1
    rw [need_of_isGeneric (isGeneric_of_tablePart (by simp [h.head.kind, tableParts]))
      (by simp [h.head.value]), made, needOfAll_cons, needOfAll_nil]
    omega
  have body : (tableBody (rows.map (alignCells n.columns))).need ≤ 3 + k := by
    have trs : needOfAll (rows.map (alignCells n.columns)) ≤ 2 + k := by
      rw [needOfAll_le_iff, List.forall_mem_map]
      intro r hr
      obtain ⟨_, _, row⟩ := exists_of_forall₂ h.body hr
      exact need_row_le row row.rowAs_alignCells alignsCells_alignChild keepsContent_alignChild
        (fits.2 r hr)
    have plain : (tableBody (rows.map (alignCells n.columns))).rewritten = tableBody _ :=
      rewritten_of_generic rfl
    rw [need_of_isGeneric (isGeneric_of_tablePart (by simp [tableBody, tableParts])) rfl, plain]
    exact (Nat.add_le_add_left trs 1).trans (by omega)
  have rewriting : n.rewritten = n.restructureTable := by
    simp [rewritten, handling, Handling.ofKind, h.kind]
  rw [need_of_isGeneric (isGeneric_of_tablePart (by simp [h.kind, tableParts])) h.value, rewriting,
    h.childList_restructureTable, needOfAll_cons, needOfAll_cons, needOfAll_nil]
  omega

end Conversion

namespace Syntax

open Conversion

variable {position : Bool} {t head row : Tree} {bodies : List Tree}

theorem names_cellAlignments (cells : List Tree) :
    List.Forall₂ (fun cell name => Names cell.style name) cells (cells.map cellAlignment) := by
  rw [List.forall₂_map_right_iff, List.forall₂_same]
  exact fun cell _ => names_iff.2 rfl

theorem outside_of_bodies (other : ∀ b ∈ bodies, b.kind ≠ "thead") :
    ∀ r ∈ sectionRows bodies, r.1.kind ≠ "thead" := by
  intro r hr
  obtain ⟨section_, hs, there⟩ := List.mem_flatMap.1 hr
  obtain ⟨row, _, rfl⟩ := List.mem_map.1 there
  exact other section_ hs

/-- The rows of bodies become rows of the table, in their order. -/
theorem rowOf_bodies {rows : List Node} (other : ∀ b ∈ bodies, b.kind ≠ "thead")
    (made : List.Forall₂ (RowBecomes position) (sectionRows bodies) rows) :
    List.Forall₂ (RowOf position "tableRow") (bodies.flatMap Tree.children) rows := by
  have all : bodies.flatMap Tree.children = (sectionRows bodies).map Prod.snd := by
    simp [sectionRows, List.map_flatMap, Function.comp_def]
  rw [all, List.forall₂_map_left_iff]
  refine ((List.forall₂_and_left _ _).2 ⟨outside_of_bodies other, made⟩).imp fun r n h => ?_
  have row := rowOf_of_rowBecomes h.2
  rwa [if_neg h.1] at row

/-- The node of a table with one head of one row and any bodies. -/
theorem tableOfRows_of_build {ns : List Node} (table : t.kind = "table")
    (sections : t.children = head :: bodies) (thead : head.kind = "thead")
    (one : head.children = [row]) (other : ∀ b ∈ bodies, b.kind ≠ "thead")
    (built : build position t = .ok ns) :
    ∃ n header rows, ns = [n] ∧ n.columns = row.children.map cellAlignment ∧
      TableOfRows position row (bodies.flatMap Tree.children) header rows n := by
  obtain ⟨rows, made, rfl⟩ := (build_table_eq_ok table).1 built
  rw [sections, sectionRows_cons, one] at made ⊢
  obtain ⟨header, rows, first, rest, rfl⟩ := List.forall₂_cons_left_iff.1 made
  have headRow := rowOf_of_rowBecomes first
  rw [if_pos thead] at headRow
  refine ⟨_, header, rows, rfl, ?_, rfl, rfl, rfl, headRow, rowOf_bodies other rest⟩
  change alignmentsAfter [] ((head, row) :: sectionRows bodies) = _
  rw [alignmentsAfter, List.foldl_cons, if_pos thead]
  exact alignmentsAfter_of_ne (outside_of_bodies other)

/-- A table with one head of one row, and with any number of bodies behind it, is built unless the
content of a cell is not. Its node is converted to a table that has the cells in their places: a
head with one row, and one body with the rows of all bodies in their order. Every cell has the
alignment that the style of the header cell of its column names. -/
theorem tables_kept (table : t.kind = "table") (sections : t.children = head :: bodies)
    (thead : head.kind = "thead") (one : head.children = [row])
    (other : ∀ b ∈ bodies, b.kind ≠ "thead") :
    match build position t with
    | .error fault => ∃ cell ∈ t.cells, buildAll position cell.children = .error fault
    | .ok ns => ∃ n names, ns = [n] ∧
        List.Forall₂ (fun cell name => Names cell.style name) row.children names ∧
        ∀ (ctx : Context) (key : Option String), ctx.overrides = [] →
          let outcome := (Converter.convert { context := ctx } n key).1.1
          (match outcome with
          | .ok m? => ∃ m, m? = some m ∧ TableElement ctx position names row
              (bodies.flatMap Tree.children) (key.getD "0") m
          | .error e => e = .tooDeep ctx.settings.maxDepth ∨
              ctx.settings.strictReferences = true ∧ ∃ d : Node,
                Entries.get? ctx.definitions d.identifier = none ∧
                e = .unresolved d.kind d.identifier) ∧
          (ctx.Tolerant → n.need ≤ ctx.settings.maxDepth → ∃ m?, outcome = .ok m?) := by
  split
  · next fault failed => exact build_table_eq_error table failed
  · next ns built =>
    obtain ⟨n, header, rows, rfl, columns, shape⟩ :=
      tableOfRows_of_build table sections thead one other built
    have names := names_cellAlignments row.children
    rw [← columns] at names
    refine ⟨n, n.columns, rfl, names, fun ctx key ho => ⟨?_, ?_⟩⟩
    · split
      · next m? run =>
        obtain ⟨q, run⟩ := start_fst_eq.1 run
        exact tableElement_of_gives ho shape ⟨0, _, q, run⟩
      · next e run =>
        obtain ⟨cause, reported⟩ := cause_of_convert ctx n key run
        cases cause with
        | tooDeep => exact .inl rfl
        | stackExhausted => exact absurd rfl reported
        | unresolved d strict missing => exact .inr ⟨strict, d, missing, rfl⟩
        | props own _ _ =>
          rw [ho] at own
          cases own
    · exact fun tolerant fits => exists_ok_of_tolerant tolerant fits key

/-- A cell with the given style and text. -/
def styledCell (style : Option String) (text : String) : Tree :=
  let leaf : Tree := { kind := "text", content := some text }
  { kind := "td", attrs := (style.map fun s => ("style", .string s)).toList,
    children := [{ kind := "inline", children := [leaf] }] }

/-- A row of cells with the given styles and texts. -/
def styledRow (cells : List (Option String × String)) : Tree :=
  { kind := "tr", children := cells.map fun (style, text) => styledCell style text }

theorem rowBecomes_styledRow (section_ : Tree) (cells : List (Option String × String)) :
    RowBecomes false (section_, styledRow cells)
      (rowNode false section_ (styledRow cells) (cells.map fun c => textCell c.2)) := by
  refine ⟨_, ?_, rfl⟩
  rw [styledRow, List.forall₂_map_left_iff, List.forall₂_map_right_iff, List.forall₂_same]
  rintro ⟨style, text⟩ _
  have content : buildAll false (styledCell style text).children = .ok [.leaf "text" text] := by
    cbv
  exact ⟨_, content, rfl⟩

/-- The header of a table. Only its first cell names an alignment. -/
def alignedHeader : Tree :=
  styledRow [(some "text-align:left", "a"), (none, "b"), (some "color:red", "c")]

/-- Rows that are shorter and longer than the header. -/
def raggedRows : List Tree :=
  [["1"], ["2", "3", "4", "5"], []].map fun texts => styledRow (texts.map (none, ·))

/-- A table with two bodies, of which the second has one row. -/
def raggedTable : Tree :=
  { kind := "table", children :=
    [{ kind := "thead", children := [alignedHeader] },
      { kind := "tbody", children := raggedRows.take 2 },
      { kind := "tbody", children := raggedRows.drop 2 }] }

theorem raggedTable_kept :
    ∃ n name m, build false raggedTable = .ok [n] ∧ Names "text-align:left".toList name ∧
      (Converter.convert { context := { stackLimit := none } } n none).1.1 = .ok (some m) ∧
      TableElement { stackLimit := none } false [name, none, none] alignedHeader raggedRows "0"
        m := by
  have kept := @tables_kept false raggedTable _ alignedHeader _ rfl rfl rfl rfl (by decide)
  have made : List.Forall₂ (RowBecomes false) (sectionRows raggedTable.children) _ :=
    .cons (rowBecomes_styledRow _ _) (.cons (rowBecomes_styledRow _ _)
      (.cons (rowBecomes_styledRow _ _) (.cons (rowBecomes_styledRow _ _) .nil)))
  have built := (build_table_eq_ok rfl).2 ⟨_, made, rfl⟩
  obtain ⟨n, header, rows, same, _, shape⟩ :=
    tableOfRows_of_build rfl rfl rfl rfl (by decide) built
  have fit : n.need ≤ 4 + 0 := by
    refine need_table_le shape ?_
    cases same
    decide +kernel
  rw [built] at kept
  obtain ⟨_, names, same', named, converted⟩ := kept
  cases same'
  cases same
  obtain ⟨outcome, fits⟩ := converted { stackLimit := none } none rfl
  obtain ⟨m?, ok⟩ := fits tolerant_unlimited (fit.trans (by decide))
  rw [ok] at outcome
  obtain ⟨m, rfl, element⟩ := outcome
  obtain _ | ⟨first, _ | ⟨second, _ | ⟨third, _ | _⟩⟩⟩ := named
  have second : _ = none := second.unique (names_iff.2 rfl)
  have third : _ = none := third.unique (names_iff.2 (by decide +kernel))
  subst second third
  exact ⟨_, _, m, built, first, ok, element⟩

end Syntax

end MarkdownTree
