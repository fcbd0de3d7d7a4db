import MarkdownTree.Node.Basic

/-!
# Rewriting tables

A table is rendered as its headers, one body that holds all its rows, and its footers. Headers and
footers hold rows: cells that stand in them directly are put into a row of their own. A cell
carries the alignment of its column, which is its place among its siblings.
-/

namespace MarkdownTree.Node

/-- A cell of a row. -/
def isCell (n : Node) : Bool := n.kind = "tableCell" || n.kind = "tableHeaderCell"

/-- The alignment of column `i`. -/
def columnAlignment (alignment : List (Option String)) (i : Nat) : Option Alignment :=
  (alignment[i]?).join.map .single

/-- The node with the alignment of their columns given to its cells, also to those inside the
nodes that group them. -/
def alignCells (alignment : List (Option String)) (n : Node) : Node :=
  n.withChildren (n.childList.attach.mapIdx fun i c =>
    if c.1.isCell then { c.1 with align := columnAlignment alignment i }
    else if c.1.childList.isEmpty then c.1
    else alignCells alignment c.1)
termination_by sizeOf n
decreasing_by exact sizeOf_lt_of_mem c.2

/-- The child at position `i` with its alignment. -/
def alignChild (alignment : List (Option String)) (i : Nat) (c : Node) : Node :=
  if c.isCell then { c with align := columnAlignment alignment i }
  else if c.childList.isEmpty then c
  else alignCells alignment c

theorem alignCells_eq (alignment : List (Option String)) (n : Node) :
    alignCells alignment n = n.withChildren (n.childList.mapIdx (alignChild alignment)) := by
  rw [alignCells]
  congr 1
  apply List.ext_getElem
  · simp
  · intro i h₁ h₂
    simp [alignChild]

/-- How deep the nodes nest that are searched for cells. -/
def groupingDepth (n : Node) : Nat :=
  1 + (n.childList.attach.map fun c =>
    if c.1.isCell || c.1.childList.isEmpty then 0 else groupingDepth c.1).foldl max 0
termination_by sizeOf n
decreasing_by exact sizeOf_lt_of_mem c.2

/-- The alignments of the columns of a table. -/
def columns (n : Node) : List (Option String) :=
  match n.align with
  | some (.columns entries) => entries
  | _ => []

/-- The children of one kind. -/
def childrenOfKind (n : Node) (kind : String) : List Node := n.childList.filter (·.kind = kind)

/-- The body of a table. -/
def tableBody (rows : List Node) : Node := { kind := "tableBody", children := some rows }

/-- The table as headers, a body with all rows, and footers; other children are dropped. -/
def restructureTable (n : Node) : Node :=
  let aligned (kind : String) : List Node := (n.childrenOfKind kind).map (alignCells n.columns)
  n.withChildren (aligned "tableHeader" ++ tableBody (aligned "tableRow") :: aligned "tableFooter")

/-- Whether all children are rows and there is at least one. -/
def holdsRows (n : Node) : Bool :=
  !n.childList.isEmpty && n.childList.all (·.kind = "tableRow")

/-- A row with the given children. -/
def tableRow (cells : List Node) : Node := { kind := "tableRow", children := some cells }

/-- The cell as a header cell; other nodes stay as they are. -/
def asHeaderCell (n : Node) : Node :=
  if n.kind = "tableCell" then { n with kind := "tableHeaderCell" } else n

/-- The header with its cells in rows and made header cells. -/
def headerRows (n : Node) : Node :=
  n.withChildren
    (if n.holdsRows then n.childList.map fun r => r.withChildren (r.childList.map asHeaderCell)
    else [tableRow (n.childList.map asHeaderCell)])

/-- The footer with its cells in rows. -/
def footerRows (n : Node) : Node :=
  if n.holdsRows then n else n.withChildren [tableRow n.childList]

end MarkdownTree.Node
