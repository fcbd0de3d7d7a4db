import MarkdownTree.Conversion.Tables

/-!
# Nodes as they are rendered

Some nodes are rewritten before their children are rendered: tables, their headers and footers,
and footnote references. `Node.weight` counts nodes, those that are rewritten twice, and
`weight_lt_of_mem_rewritten` says that the children of a rewritten node weigh less than the node
it was made of. The conversion of a tree ends for this reason.
-/

namespace MarkdownTree

/-- The ways in which nodes are rendered. -/
inductive Handling where
  | generic
  | code
  | listItem
  | html
  | table
  | tableHeader
  | tableFooter
  | footnoteReference
  deriving DecidableEq

/-- The way in which nodes of a kind are rendered. -/
def Handling.ofKind (kind : String) : Handling :=
  if kind = "code" then .code
  else if kind = "listItem" then .listItem
  else if kind = "html" then .html
  else if kind = "table" then .table
  else if kind = "tableHeader" then .tableHeader
  else if kind = "tableFooter" then .tableFooter
  else if kind = "footnoteReference" then .footnoteReference
  else .generic

namespace Node

/-- The way in which a node is rendered. -/
def handling (n : Node) : Handling := .ofKind n.kind

theorem kind_of_handling (n : Node) :
    match n.handling with
    | .generic => n.kind ≠ "code" ∧ n.kind ≠ "listItem" ∧ n.kind ≠ "html" ∧ n.kind ≠ "table" ∧
        n.kind ≠ "tableHeader" ∧ n.kind ≠ "tableFooter" ∧ n.kind ≠ "footnoteReference"
    | .code => n.kind = "code"
    | .listItem => n.kind = "listItem"
    | .html => n.kind = "html"
    | .table => n.kind = "table"
    | .tableHeader => n.kind = "tableHeader"
    | .tableFooter => n.kind = "tableFooter"
    | .footnoteReference => n.kind = "footnoteReference" := by
  simp only [handling, Handling.ofKind]
  by_cases code : n.kind = "code"
  · simp [code]
  by_cases listItem : n.kind = "listItem"
  · simp [listItem]
  by_cases html : n.kind = "html"
  · simp [html]
  by_cases table : n.kind = "table"
  · simp [table]
  by_cases header : n.kind = "tableHeader"
  · simp [header]
  by_cases footer : n.kind = "tableFooter"
  · simp [footer]
  by_cases footnote : n.kind = "footnoteReference"
  · simp [footnote]
  · simp [code, listItem, html, table, header, footer, footnote]

/-- The mark of a footnote reference. -/
def footnoteMark (n : Node) : Node := { kind := "sup", value := n.identifier }

/-- The node whose children are rendered in the place of those of `n`. -/
def rewritten (n : Node) : Node :=
  match n.handling with
  | .table => n.restructureTable
  | .tableHeader => n.headerRows
  | .tableFooter => n.footerRows
  | .footnoteReference => n.withChildren [n.footnoteMark]
  | _ => n

/-- The weight of a node without its children. -/
def ownWeight (kind : String) : Nat :=
  match Handling.ofKind kind with
  | .table | .tableHeader | .tableFooter | .footnoteReference => 2
  | _ => 1

/-- The number of nodes of a tree, those that are rewritten counted twice. -/
def weight (n : Node) : Nat := ownWeight n.kind + total (n.childList.attach.map fun c => weight c.1)
termination_by sizeOf n
decreasing_by exact sizeOf_lt_of_mem c.2

theorem weight_eq (n : Node) : n.weight = ownWeight n.kind + total (n.childList.map weight) := by
  rw [weight, List.attach_map_val]

theorem ownWeight_pos (kind : String) : 0 < ownWeight kind := by
  unfold ownWeight
  split <;> decide

theorem weight_le_total {c : Node} {l : List Node} (h : c ∈ l) :
    c.weight ≤ total (l.map weight) :=
  le_total_of_mem (List.mem_map_of_mem h)

theorem weight_lt_of_mem {n c : Node} (h : c ∈ n.childList) : c.weight < n.weight := by
  rw [weight_eq n]
  have := weight_le_total h
  have := ownWeight_pos n.kind
  omega

theorem weight_withChildren (n : Node) (cs : List Node) :
    (n.withChildren cs).weight = ownWeight n.kind + total (cs.map weight) := by
  simp [weight_eq (n.withChildren cs)]

theorem weight_withAlign (n : Node) (a : Option Alignment) :
    ({ n with align := a } : Node).weight = n.weight := by
  rw [weight_eq, weight_eq n]
  rfl

@[simp] theorem weight_alignCells (alignment : List (Option String)) (n : Node) :
    (alignCells alignment n).weight = n.weight := by
  induction n using induct with
  | step n ih =>
    rw [alignCells_eq, weight_withChildren, weight_eq n]
    congr 2
    apply List.ext_getElem
    · simp
    · intro i h₁ h₂
      have hi : i < n.childList.length := by simpa using h₂
      simp only [List.getElem_map, List.getElem_mapIdx, alignChild]
      split
      · exact weight_withAlign _ _
      · split
        · rfl
        · exact ih _ (List.getElem_mem hi)

@[simp] theorem weight_asHeaderCell (n : Node) : (asHeaderCell n).weight = n.weight := by
  unfold asHeaderCell
  split
  · next h =>
    rw [weight_eq, weight_eq n, h]
    rfl
  · rfl

theorem total_weight_asHeaderCell (l : List Node) :
    total ((l.map asHeaderCell).map weight) = total (l.map weight) := by
  simp [Function.comp_def]

theorem weight_childrenOfKind_le (n : Node) (kind : String) :
    total ((n.childrenOfKind kind).map weight) ≤ total (n.childList.map weight) := by
  unfold childrenOfKind
  generalize n.childList = l
  induction l with
  | nil => simp
  | cons c l ih =>
    by_cases h : c.kind = kind <;> simp [h] <;> omega

theorem weight_row (cells : List Node) :
    (tableRow cells).weight = 1 + total (cells.map weight) := by
  rw [weight_eq]
  rfl

theorem weight_body (rows : List Node) :
    (tableBody rows).weight = 1 + total (rows.map weight) := by
  rw [weight_eq]
  rfl

theorem weight_lt_of_mem_restructureTable {n c : Node} (hn : ownWeight n.kind = 2)
    (h : c ∈ n.restructureTable.childList) : c.weight < n.weight := by
  have aligned (kind : String) :
      total (((n.childrenOfKind kind).map (alignCells n.columns)).map weight) ≤
        total (n.childList.map weight) := by
    simpa [Function.comp_def] using weight_childrenOfKind_le n kind
  rw [weight_eq n, hn]
  simp only [restructureTable, childList_withChildren, List.mem_append, List.mem_cons] at h
  rcases h with h | rfl | h
  · have := weight_le_total h
    have := aligned "tableHeader"
    omega
  · rw [weight_body]
    have := aligned "tableRow"
    omega
  · have := weight_le_total h
    have := aligned "tableFooter"
    omega

theorem weight_lt_of_mem_headerRows {n c : Node} (hn : ownWeight n.kind = 2)
    (h : c ∈ n.headerRows.childList) : c.weight < n.weight := by
  unfold headerRows at h
  split at h
  · simp only [childList_withChildren, List.mem_map] at h
    obtain ⟨r, hr, rfl⟩ := h
    have := weight_lt_of_mem hr
    rwa [weight_withChildren, total_weight_asHeaderCell, ← weight_eq]
  · simp only [childList_withChildren, List.mem_singleton] at h
    subst h
    rw [weight_row, total_weight_asHeaderCell, weight_eq n, hn]
    omega

theorem weight_lt_of_mem_footerRows {n c : Node} (hn : ownWeight n.kind = 2)
    (h : c ∈ n.footerRows.childList) : c.weight < n.weight := by
  unfold footerRows at h
  split at h
  · exact weight_lt_of_mem h
  · simp only [childList_withChildren, List.mem_singleton] at h
    subst h
    rw [weight_row, weight_eq n, hn]
    omega

theorem weight_lt_of_mem_rewritten {n c : Node} (h : c ∈ n.rewritten.childList) :
    c.weight < n.weight := by
  have own (hh : n.handling = .table ∨ n.handling = .tableHeader ∨ n.handling = .tableFooter ∨
      n.handling = .footnoteReference) : ownWeight n.kind = 2 := by
    unfold ownWeight
    simp only [handling] at hh
    rcases hh with hh | hh | hh | hh <;> rw [hh]
  unfold rewritten at h
  split at h
  · next hh => exact weight_lt_of_mem_restructureTable (own (.inl hh)) h
  · next hh => exact weight_lt_of_mem_headerRows (own (.inr (.inl hh))) h
  · next hh => exact weight_lt_of_mem_footerRows (own (.inr (.inr (.inl hh)))) h
  · next hh =>
    simp only [childList_withChildren, List.mem_singleton] at h
    subst h
    rw [weight_eq n, own (.inr (.inr (.inr hh))), weight_eq]
    change 1 + 0 < _
    omega
  · exact weight_lt_of_mem h

end Node

end MarkdownTree
