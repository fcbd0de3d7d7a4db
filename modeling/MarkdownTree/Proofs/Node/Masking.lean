import MarkdownTree.Conversion.Tags
import MarkdownTree.Conversion.Weight
import MarkdownTree.Proofs.Node.Tables
import MarkdownTree.Walk
import Mathlib.Data.List.Basic

/-!
# Masking what is not rendered

Some of a tree has no part in its markup: the decoration of its nodes, which is what was read with
them and where they stand in the source, and the definitions that stand between other nodes. A
`Masking` changes the decoration of all nodes and may put other definitions in the place of those
without children; it keeps everything else.

Rewriting a node looks at the kinds of its children and moves them as they are. It therefore does
the same to a masked tree as to the tree itself (`Masking.rewritten`).
-/

namespace MarkdownTree.Node

/-- What a node carries besides what is rendered. -/
structure Decoration where
  data : Option Fields := none
  position : Option Fields := none
  extras : Fields := []

/-- The decoration of a node. -/
def decoration (n : Node) : Decoration := ⟨n.data, n.position, n.extras⟩

/-- The node with another decoration. -/
def decorated (n : Node) (d : Decoration) : Node :=
  { n with data := d.data, position := d.position, extras := d.extras }

/-- The node with its children mapped by `f`; absent ones stay absent. -/
def mapChildren (f : Node → Node) (n : Node) : Node :=
  { n with children := n.children.map (List.map f) }

@[simp] theorem childList_mapChildren (f : Node → Node) (n : Node) :
    (n.mapChildren f).childList = n.childList.map f := by
  rw [mapChildren, childList, childList]
  cases n.children <;> rfl

/-- The node with another decoration and with other children or none. -/
def redone (n : Node) (d : Decoration) (cs : Option (List Node)) : Node :=
  { n.decorated d with children := cs }

/-- Absent children stay absent. -/
theorem map_children_attach (f : Node → Node) (n : Node) :
    (n.children.map fun _ => n.childList.attach.map fun c => f c.1) =
      n.children.map (List.map f) := by
  cases children : n.children with
  | none => rfl
  | some cs =>
    have same : n.childList = cs := by rw [childList, children, Option.getD_some]
    rw [Option.map_some, Option.map_some, List.attach_map_val, same]

/-- A definition without children. -/
def isLeafDefinition (n : Node) : Bool := n.kind = "definition" && n.childList.isEmpty

/-- A map of trees that changes decorations by `redecorate` and keeps everything else, except that
another definition may stand for one without children. -/
structure Masking (redecorate : Decoration → Decoration) (f : Node → Node) : Prop where
  redecorate_empty : redecorate {} = {}
  leaf {n : Node} : n.isLeafDefinition = true → (f n).isLeafDefinition = true
  eq {n : Node} : n.isLeafDefinition = false →
    f n = (n.decorated (redecorate n.decoration)).mapChildren f

variable {n c : Node} {cs : List Node} {alignment : List (Option String)} {i : Nat}

theorem isLeafDefinition_of_kind (h : n.kind ≠ "definition") : n.isLeafDefinition = false := by
  simp [isLeafDefinition, h]

theorem isLeafDefinition_iff :
    n.isLeafDefinition = true ↔ n.kind = "definition" ∧ n.childList = [] := by
  simp [isLeafDefinition]

theorem isLeafDefinition_alignCells :
    (alignCells alignment n).isLeafDefinition = n.isLeafDefinition := by
  rw [isLeafDefinition, isLeafDefinition, kind_alignCells, childList_alignCells, Bool.eq_iff_iff]
  simp

theorem groupingDepth_eq (n : Node) :
    n.groupingDepth = 1 + (n.childList.map fun c =>
      if c.isCell || c.childList.isEmpty then 0 else c.groupingDepth).foldl max 0 := by
  rw [groupingDepth, List.attach_map_val (f := fun c : Node =>
    if c.isCell || c.childList.isEmpty then 0 else c.groupingDepth)]

namespace Masking

variable {redecorate : Decoration → Decoration} {f : Node → Node} (mask : Masking redecorate f)

include mask

theorem redone (h : n.isLeafDefinition = false) :
    f n = n.redone (redecorate n.decoration) (n.children.map (List.map f)) := mask.eq h

theorem kind (n : Node) : (f n).kind = n.kind := by
  cases h : n.isLeafDefinition with
  | true =>
    rw [(isLeafDefinition_iff.1 h).1, (isLeafDefinition_iff.1 (mask.leaf h)).1]
  | false => rw [mask.eq h, mapChildren, decorated]

theorem childList (n : Node) : (f n).childList = n.childList.map f := by
  cases h : n.isLeafDefinition with
  | true =>
    rw [(isLeafDefinition_iff.1 h).2, (isLeafDefinition_iff.1 (mask.leaf h)).2, List.map_nil]
  | false =>
    rw [mask.eq h, childList_mapChildren]
    rfl

theorem isLeafDefinition (n : Node) : (f n).isLeafDefinition = n.isLeafDefinition := by
  rw [Node.isLeafDefinition, Node.isLeafDefinition, mask.kind, mask.childList, List.isEmpty_map]

theorem isCell (n : Node) : (f n).isCell = n.isCell := by
  rw [Node.isCell, Node.isCell, mask.kind]

theorem handling (n : Node) : (f n).handling = n.handling := by
  rw [Node.handling, Node.handling, mask.kind]

theorem isText (n : Node) : (f n).isText = n.isText := by
  rw [Node.isText, Node.isText, mask.kind]

theorem holdsRows (n : Node) : (f n).holdsRows = n.holdsRows := by
  rw [Bool.eq_iff_iff, holdsRows_iff, holdsRows_iff, mask.childList]
  simp [mask.kind]

theorem eq_of_kind (h : n.kind ≠ "definition") :
    f n = (n.decorated (redecorate n.decoration)).mapChildren f :=
  mask.eq (isLeafDefinition_of_kind h)

/-- Masking does not depend on what is done to the children, as long as none is left out. -/
theorem withChildren (h : n.isLeafDefinition = false)
    (h' : (n.withChildren cs).isLeafDefinition = false) :
    f (n.withChildren cs) = (f n).withChildren (cs.map f) := by
  rw [mask.eq h', mask.eq h]
  rfl

theorem withChildren_of_kind (h : n.kind ≠ "definition") (cs : List Node) :
    f (n.withChildren cs) = (f n).withChildren (cs.map f) :=
  mask.withChildren (isLeafDefinition_of_kind h) (isLeafDefinition_of_kind h)

/-! ### Tables -/

/-- By induction on the tree, as cells can stand at any depth below the node. -/
theorem alignCells (h : n.isLeafDefinition = false) :
    f (alignCells alignment n) = Node.alignCells alignment (f n) := by
  induction n using induct with
  | step n ih =>
    have each (i : Nat) (c : Node) (hc : c ∈ n.childList) :
        f (alignChild alignment i c) = alignChild alignment i (f c) := by
      unfold alignChild
      rw [mask.isCell, mask.childList, List.isEmpty_map]
      split
      · next cell =>
        have other : c.kind ≠ "definition" := by
          intro kind
          simp [Node.isCell, kind] at cell
        rw [mask.eq_of_kind other, mask.eq_of_kind (n := { c with align := _ }) other]
        rfl
      split
      · rfl
      · next children =>
        exact ih c hc (by simp [Node.isLeafDefinition, children])
    have leaf : (Node.alignCells alignment n).isLeafDefinition = n.isLeafDefinition :=
      isLeafDefinition_alignCells
    rw [alignCells_eq] at leaf
    rw [alignCells_eq, mask.withChildren h (leaf.trans h), alignCells_eq, mask.childList,
      map_mapIdx, mapIdx_map, mapIdx_congr each]

theorem childrenOfKind (n : Node) (kind : String) :
    (f n).childrenOfKind kind = (n.childrenOfKind kind).map f := by
  rw [Node.childrenOfKind, Node.childrenOfKind, mask.childList, List.filter_map]
  simp [Function.comp_def, mask.kind]

theorem asHeaderCell (n : Node) : f (asHeaderCell n) = Node.asHeaderCell (f n) := by
  unfold Node.asHeaderCell
  rw [mask.kind]
  split
  · next cell =>
    rw [mask.eq_of_kind (n := n) (by simp [cell]), mask.eq_of_kind (by simp)]
    rfl
  · rfl

/-- A node without decoration is masked by masking its children. -/
theorem plain (h : n.kind ≠ "definition") (bare : n.decoration = {}) : f n = n.mapChildren f := by
  have same : n.decorated {} = n := by
    rw [← bare]
    cases n
    rfl
  rw [mask.eq_of_kind h, bare, mask.redecorate_empty, same]

theorem tableRow (cells : List Node) : f (tableRow cells) = Node.tableRow (cells.map f) :=
  mask.plain (n := Node.tableRow cells) (show "tableRow" ≠ "definition" by decide) rfl

theorem tableBody (rows : List Node) : f (tableBody rows) = Node.tableBody (rows.map f) :=
  mask.plain (n := Node.tableBody rows) (show "tableBody" ≠ "definition" by decide) rfl

theorem restructureTable (h : n.kind = "table") :
    (f n).restructureTable = f n.restructureTable := by
  have other : n.kind ≠ "definition" := by simp [h]
  have columns : (f n).columns = n.columns := by
    rw [mask.eq_of_kind other]
    rfl
  have aligned {kind : String} (part : kind ≠ "definition") :
      ((f n).childrenOfKind kind).map (Node.alignCells n.columns) =
        ((n.childrenOfKind kind).map (Node.alignCells n.columns)).map f := by
    rw [mask.childrenOfKind, List.map_map, List.map_map]
    apply List.map_congr_left
    intro c member
    have leaf : c.isLeafDefinition = false :=
      isLeafDefinition_of_kind (kind_of_mem_childrenOfKind member ▸ part)
    exact (mask.alignCells leaf).symm
  simp only [Node.restructureTable, columns]
  rw [mask.withChildren_of_kind other, List.map_append, List.map_cons, mask.tableBody,
    aligned (by decide), aligned (by decide), aligned (by decide)]

theorem headerRows (h : n.kind = "tableHeader") : (f n).headerRows = f n.headerRows := by
  have cells (l : List Node) :
      (l.map f).map Node.asHeaderCell = (l.map Node.asHeaderCell).map f := by
    simp [Function.comp_def, mask.asHeaderCell]
  rw [Node.headerRows, Node.headerRows, mask.withChildren_of_kind (by simp [h]), mask.holdsRows,
    mask.childList]
  congr 1
  split
  · next rows =>
    rw [List.map_map, List.map_map]
    apply List.map_congr_left
    intro r member
    have row : r.kind ≠ "definition" := by simp [(holdsRows_iff.1 rows).2 r member]
    simp only [Function.comp_apply, mask.childList, cells, mask.withChildren_of_kind row]
  · rw [cells, List.map_singleton, mask.tableRow]

theorem footerRows (h : n.kind = "tableFooter") : (f n).footerRows = f n.footerRows := by
  rw [Node.footerRows, Node.footerRows, mask.holdsRows, mask.childList]
  split
  · rfl
  · rw [mask.withChildren_of_kind (by simp [h]), List.map_singleton, mask.tableRow]

theorem markReference (h : n.kind = "footnoteReference") :
    (f n).withChildren [(f n).footnoteMark] = f (n.withChildren [n.footnoteMark]) := by
  have other : n.kind ≠ "definition" := by simp [h]
  have mark : f n.footnoteMark = n.footnoteMark :=
    mask.plain (show "sup" ≠ "definition" by decide) rfl
  rw [mask.withChildren_of_kind other, List.map_singleton, mark, footnoteMark, footnoteMark,
    mask.eq_of_kind other]
  rfl

/-- Masking makes no difference to how a node is rewritten. -/
theorem rewritten (n : Node) : (f n).rewritten = f n.rewritten := by
  have kind := n.kind_of_handling
  unfold Node.rewritten
  rw [mask.handling]
  cases hh : n.handling with
  | table => exact mask.restructureTable (by simpa only [hh] using kind)
  | tableHeader => exact mask.headerRows (by simpa only [hh] using kind)
  | tableFooter => exact mask.footerRows (by simpa only [hh] using kind)
  | footnoteReference => exact mask.markReference (by simpa only [hh] using kind)
  | _ => rfl

theorem groupingDepth (n : Node) : (f n).groupingDepth = n.groupingDepth := by
  induction n using induct with
  | step n ih =>
    rw [groupingDepth_eq, groupingDepth_eq n, mask.childList, List.map_map]
    congr 2
    apply List.map_congr_left
    intro c member
    simp only [Function.comp_apply, mask.isCell, mask.childList, List.isEmpty_map, ih c member]

/-- The nodes of a masked tree are those of the tree, masked. -/
theorem preorder (n : Node) : (f n).preorder = n.preorder.map f := by
  induction n using induct with
  | step n ih =>
    rw [preorder_eq, preorder_eq n, mask.childList, List.map_cons, List.map_flatMap,
      List.flatMap_map]
    congr 1
    exact List.flatMap_congr ih

end Masking

end MarkdownTree.Node
