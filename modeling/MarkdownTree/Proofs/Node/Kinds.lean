import MarkdownTree.Conversion.Weight
import MarkdownTree.Proofs.Node.Tables
import MarkdownTree.Walk

/-!
# The nodes of a kind in a tree

`Node.ofKind` lists the nodes of one kind in a tree. What is gathered from such nodes is gathered
from the children of all others (`Node.Gathers`), and this is all that matters where a node is
rewritten: rewriting moves and makes nodes of kinds at which nothing is found, so what is found
below a rewritten node was found in the node before (`Gathers.subset_of_rewritten`). Two things are
gathered in this way, the references to footnotes and the blocks of code.
-/

namespace MarkdownTree.Node

/-- The nodes of a kind in a tree, in order. -/
def ofKind (kind : String) (n : Node) : List Node := n.preorder.filter (·.kind = kind)

theorem ofKind_eq (kind : String) (n : Node) :
    n.ofKind kind = (if n.kind = kind then [n] else []) ++ n.childList.flatMap (ofKind kind) := by
  rw [ofKind, preorder_eq, List.filter_cons, List.filter_flatMap]
  by_cases h : n.kind = kind <;> simp [h] <;> rfl

theorem ofKind_of_ne {kind : String} {n : Node} (h : n.kind ≠ kind) :
    n.ofKind kind = n.childList.flatMap (ofKind kind) := by
  rw [ofKind_eq, if_neg h, List.nil_append]

/-- The kinds of the nodes that are made or changed when a table or a footnote is rewritten. -/
def structuralKinds : List String :=
  ["tableHeader", "tableRow", "tableFooter", "tableBody", "tableCell", "tableHeaderCell", "sup",
    "paragraph", "textNode"]

/-- Something is found in a tree wherever it is found below, and in a structural node it is found
nowhere else. -/
structure Gathers (f : Node → List α) : Prop where
  children_subset (n : Node) : n.childList.flatMap f ⊆ f n
  of_structural {n : Node} : n.kind ∈ structuralKinds → f n = n.childList.flatMap f

namespace Gathers

variable {f : Node → List α} (gathers : Gathers f) {n c : Node} {alignment : List (Option String)}
  {i : Nat}

include gathers

theorem subset_of_child (h : c ∈ n.childList) : f c ⊆ f n := by
  intro x hx
  exact gathers.children_subset n (List.mem_flatMap_of_mem h hx)

theorem subset_of_mem_preorder (h : c ∈ n.preorder) : f c ⊆ f n := by
  induction n using induct with
  | step n ih =>
    rw [preorder_eq, List.mem_cons] at h
    rcases h with rfl | h
    · exact List.Subset.refl _
    · obtain ⟨d, hd, h⟩ := List.mem_flatMap.1 h
      exact List.Subset.trans (ih d hd h) (gathers.subset_of_child hd)

/-! ### Tables -/

/-- The alignment of a cell has no part in what is found in it. -/
theorem alignChild (group : c.childList ≠ [] → f (alignCells alignment c) = f c) :
    f (alignChild alignment i c) = f c := by
  refine congr_alignChild (fun cell => ?_) fun _ some => group some
  have structural : c.kind ∈ structuralKinds := by
    simp only [isCell, Bool.or_eq_true, decide_eq_true_eq] at cell
    rcases cell with kind | kind <;> simp [structuralKinds, kind]
  rw [gathers.of_structural structural]
  exact gathers.of_structural structural

theorem asHeaderCell (c : Node) : f c.asHeaderCell = f c := by
  by_cases cell : c.kind = "tableCell"
  · have made : c.asHeaderCell = { c with kind := "tableHeaderCell" } := if_pos cell
    rw [made, gathers.of_structural (n := c) (by simp [structuralKinds, cell])]
    exact gathers.of_structural (show "tableHeaderCell" ∈ structuralKinds by decide)
  · have kept : c.asHeaderCell = c := if_neg cell
    rw [kept]

theorem map_asHeaderCell (cells : List Node) :
    (cells.map Node.asHeaderCell).flatMap f = cells.flatMap f := by
  rw [List.flatMap_map]
  simp only [gathers.asHeaderCell]

theorem tableRow (cells : List Node) : f (tableRow cells) = cells.flatMap f :=
  gathers.of_structural (n := Node.tableRow cells) (show "tableRow" ∈ structuralKinds by decide)

/-- The rows and sections that a table keeps are its own, with alignments. -/
theorem subset_of_restructureTable
    (aligned : ∀ d ∈ n.childList, d.kind ∈ structuralKinds → f (alignCells n.columns d) = f d)
    (h : c ∈ n.restructureTable.childList) : f c ⊆ f n := by
  have kept {kind : String} (structural : kind ∈ structuralKinds) {c : Node}
      (hc : c ∈ (n.childrenOfKind kind).map (alignCells n.columns)) : f c ⊆ f n := by
    obtain ⟨d, ofKind, rfl⟩ := List.mem_map.1 hc
    have child : d ∈ n.childList := (List.mem_filter.1 ofKind).1
    rw [aligned d child (by rwa [kind_of_mem_childrenOfKind ofKind])]
    exact gathers.subset_of_child child
  rw [childList_restructureTable, List.mem_append, List.mem_cons] at h
  rcases h with head | rfl | foot
  · exact kept (by decide) head
  · rw [gathers.of_structural (n := tableBody _) (show "tableBody" ∈ structuralKinds by decide)]
    intro x hx
    obtain ⟨row, there, hx⟩ := List.mem_flatMap.1 hx
    exact kept (by decide) there hx
  · exact kept (by decide) foot

theorem subset_of_headerRows (h : c ∈ n.headerRows.childList) : f c ⊆ f n := by
  cases held : n.holdsRows with
  | true =>
    rw [headerRows_of_holdsRows held, childList_withChildren] at h
    obtain ⟨r, hr, rfl⟩ := List.mem_map.1 h
    have row : r.kind ∈ structuralKinds := by
      simp [structuralKinds, (holdsRows_iff.1 held).2 r hr]
    have made : r.asHeaderRow.kind ∈ structuralKinds := row
    rw [gathers.of_structural made, asHeaderRow, childList_withChildren, gathers.map_asHeaderCell,
      ← gathers.of_structural row]
    exact gathers.subset_of_child hr
  | false =>
    rw [headerRows_of_cells held, childList_withChildren, List.mem_singleton] at h
    rw [h, gathers.tableRow, gathers.map_asHeaderCell]
    exact gathers.children_subset n

theorem subset_of_footerRows (h : c ∈ n.footerRows.childList) : f c ⊆ f n := by
  cases held : n.holdsRows with
  | true =>
    rw [footerRows_of_holdsRows held] at h
    exact gathers.subset_of_child h
  | false =>
    rw [footerRows_of_cells held, childList_withChildren, List.mem_singleton] at h
    rw [h, gathers.tableRow]
    exact gathers.children_subset n

/-- What is found below a rewritten node was found in the node before. -/
theorem subset_of_rewritten
    (aligned : ∀ d ∈ n.childList, d.kind ∈ structuralKinds → f (alignCells n.columns d) = f d)
    (h : c ∈ n.rewritten.childList) : f c ⊆ f n := by
  unfold rewritten at h
  split at h
  · exact gathers.subset_of_restructureTable aligned h
  · exact gathers.subset_of_headerRows h
  · exact gathers.subset_of_footerRows h
  · obtain rfl := List.mem_singleton.1 h
    rw [gathers.of_structural (n := footnoteMark n) (show "sup" ∈ structuralKinds by decide)]
    exact List.nil_subset _
  · exact gathers.subset_of_child h

end Gathers

/-! ### References to footnotes -/

/-- The references to footnotes in a tree. -/
abbrev references (n : Node) : List Node := n.ofKind "footnoteReference"

/-- No reference to a footnote has children. -/
def ReferencesClosed (n : Node) : Prop := ∀ r ∈ n.references, r.childList = []

variable {n c r : Node}

theorem gathers_references : Gathers references where
  children_subset n := by
    rw [references, ofKind_eq]
    exact List.subset_append_right _ _
  of_structural {n} structural := by
    have other : "footnoteReference" ∉ structuralKinds := by decide
    exact ofKind_of_ne fun kind => other (kind ▸ structural)

theorem ReferencesClosed.child (closed : n.ReferencesClosed) (h : c ∈ n.childList) :
    c.ReferencesClosed := fun r hr => closed r (gathers_references.subset_of_child h hr)

theorem ReferencesClosed.kind_ne (closed : n.ReferencesClosed) (h : n.childList ≠ []) :
    n.kind ≠ "footnoteReference" := by
  intro kind
  refine h (closed n ?_)
  rw [references, ofKind_eq, if_pos kind]
  exact List.mem_append_left _ List.mem_cons_self

/-- Alignments change no reference. -/
theorem references_alignCells (alignment : List (Option String)) (closed : n.ReferencesClosed)
    (h : n.kind ≠ "footnoteReference") :
    (alignCells alignment n).references = n.references := by
  induction n using induct with
  | step n ih =>
    have each (i : Nat) (c : Node) (hc : c ∈ n.childList) :
        (alignChild alignment i c).references = c.references :=
      gathers_references.alignChild fun some =>
        ih c hc (closed.child hc) ((closed.child hc).kind_ne some)
    rw [references, references, ofKind_of_ne h, ofKind_of_ne (by simpa using h), List.flatMap_def,
      List.flatMap_def, map_childList_alignCells each]

/-- References have no children, so none of them is changed where a node is rewritten. -/
theorem mem_references_of_rewritten (closed : n.ReferencesClosed) (hc : c ∈ n.rewritten.childList)
    (hr : r ∈ c.references) : r ∈ n.references := by
  refine gathers_references.subset_of_rewritten (fun d child structural => ?_) hc hr
  have other : "footnoteReference" ∉ structuralKinds := by decide
  exact references_alignCells _ (closed.child child) fun kind => other (kind ▸ structural)

/-! ### Blocks of code -/

/-- The languages and texts of the blocks of code in a tree. -/
def codeTexts (n : Node) : List (Option String × Option String) :=
  (n.ofKind "code").map fun b => (b.lang, b.value)

theorem codeTexts_eq (n : Node) :
    n.codeTexts =
      (if n.kind = "code" then [(n.lang, n.value)] else []) ++ n.childList.flatMap codeTexts := by
  rw [codeTexts, ofKind_eq, List.map_append, List.map_flatMap]
  split <;> rfl

theorem gathers_codeTexts : Gathers codeTexts where
  children_subset n := by
    rw [codeTexts_eq]
    exact List.subset_append_right _ _
  of_structural {n} structural := by
    have other : "code" ∉ structuralKinds := by decide
    have ne : n.kind ≠ "code" := fun kind => other (kind ▸ structural)
    rw [codeTexts_eq, if_neg ne, List.nil_append]

theorem codeTexts_alignCells (alignment : List (Option String)) (n : Node) :
    (alignCells alignment n).codeTexts = n.codeTexts := by
  induction n using induct with
  | step n ih =>
    have each (i : Nat) (c : Node) (hc : c ∈ n.childList) :
        (alignChild alignment i c).codeTexts = c.codeTexts :=
      gathers_codeTexts.alignChild fun _ => ih c hc
    rw [codeTexts_eq, codeTexts_eq n, List.flatMap_def, List.flatMap_def,
      map_childList_alignCells each, alignCells_eq]
    rfl

theorem codeTexts_subset_of_rewritten (h : c ∈ n.rewritten.childList) :
    c.codeTexts ⊆ n.codeTexts :=
  gathers_codeTexts.subset_of_rewritten (fun d _ _ => codeTexts_alignCells _ d) h

end MarkdownTree.Node
