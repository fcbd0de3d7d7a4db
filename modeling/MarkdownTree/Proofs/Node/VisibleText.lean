import MarkdownTree.Conversion.Tags
import MarkdownTree.Conversion.Weight
import MarkdownTree.Proofs.Node.Tables

/-!
# The visible text of a node

`Node.visibleText` is what a reader of a node reads, given by the node alone: which nodes show
their value and which their children, and that a table is read from its headers over its rows to
its footers. It does not mention how a node is converted.

The rewriting of tables moves cells into rows of their own, gives them alignments and makes them
header cells. The lemmas below say that none of this changes what is read, so that the children of
a rewritten node show the text of the node itself.
-/

namespace MarkdownTree.Node

/-- The texts of the parts of one kind, one after the other. -/
def textOfKind (kind : String) (parts : List (String × String)) : String :=
  String.join ((parts.filter (·.1 = kind)).map Prod.snd)

/-- The visible text of a node, given the kinds and the visible texts of its children. -/
def visibleFrom (n : Node) (parts : List (String × String)) : String :=
  if n.isText || n.kind = "code" then n.value.getD ""
  else if n.kind = "html" || n.isUnrendered then ""
  else if n.kind = "listItem" && n.checked.isSome then String.join (parts.map Prod.snd)
  else
    match n.value with
    | some value => value
    | none =>
      if n.kind = "footnoteReference" then n.identifier.getD ""
      else if n.kind = "table" then
        textOfKind "tableHeader" parts ++ textOfKind "tableRow" parts ++
          textOfKind "tableFooter" parts
      else String.join (parts.map Prod.snd)

/-- The visible text of a node. -/
def visibleText (n : Node) : String :=
  n.visibleFrom (n.childList.attach.map fun c => (c.1.kind, visibleText c.1))
termination_by sizeOf n
decreasing_by exact sizeOf_lt_of_mem c.2

/-- The visible text of several nodes, one after the other. -/
def visibleTexts (l : List Node) : String := String.join (l.map visibleText)

theorem visibleText_eq (n : Node) :
    n.visibleText = n.visibleFrom (n.childList.map fun c => (c.kind, c.visibleText)) := by
  rw [visibleText, List.attach_map_val (f := fun c : Node => (c.kind, c.visibleText))]

@[simp] theorem visibleTexts_nil : visibleTexts [] = "" := rfl

@[simp] theorem visibleTexts_cons (n : Node) (l : List Node) :
    visibleTexts (n :: l) = n.visibleText ++ visibleTexts l := by
  simp [visibleTexts]

@[simp] theorem visibleTexts_append (l l' : List Node) :
    visibleTexts (l ++ l') = visibleTexts l ++ visibleTexts l' := by
  simp [visibleTexts]

theorem join_parts (l : List Node) :
    String.join ((l.map fun c => (c.kind, c.visibleText)).map Prod.snd) = visibleTexts l := by
  rw [List.map_map]
  rfl

theorem textOfKind_parts (n : Node) (kind : String) :
    textOfKind kind (n.childList.map fun c => (c.kind, c.visibleText)) =
      visibleTexts (n.childrenOfKind kind) := by
  rw [textOfKind, List.filter_map, List.map_map]
  rfl

theorem visibleText_of_isText {n : Node} (h : n.isText = true) :
    n.visibleText = n.value.getD "" := by
  rw [visibleText_eq, visibleFrom, if_pos (by simp [h])]

theorem visibleText_of_isUnrendered {n : Node} (h : n.isUnrendered = true) :
    n.visibleText = "" := by
  have hidden : n.isText = false ∧ n.kind ≠ "code" := by
    simp only [isUnrendered, Bool.or_eq_true, decide_eq_true_eq] at h
    rcases h with (h | h) | h <;> simp [isText, h]
  rw [visibleText_eq, visibleFrom, if_neg (by simp [hidden]), if_pos (by simp [h])]

/-- What a node without a way of its own shows: its value, or else its children. -/
def contentText (n : Node) : String := n.value.getD (visibleTexts n.childList)

/-- The kinds that show their value, or else their children. -/
structure IsPlain (n : Node) : Prop where
  text : n.isText = false
  unrendered : n.isUnrendered = false
  code : n.kind ≠ "code"
  html : n.kind ≠ "html"
  task : n.kind = "listItem" → n.checked = none
  footnote : n.kind ≠ "footnoteReference"
  table : n.kind ≠ "table"

theorem IsPlain.visibleText_eq {n : Node} (h : n.IsPlain) : n.visibleText = n.contentText := by
  have item : ¬ (n.kind = "listItem" && n.checked.isSome) = true := by
    simp only [Bool.and_eq_true, decide_eq_true_eq, not_and]
    intro kind
    simp [h.task kind]
  rw [Node.visibleText_eq, visibleFrom, if_neg (by simp [h.text, h.code]),
    if_neg (by simp [h.unrendered, h.html]), if_neg item, if_neg h.footnote, if_neg h.table,
    join_parts, contentText]
  cases n.value <;> rfl

/-- Kinds that a table is made of are plain. -/
theorem isPlain_of_kind {n : Node} (h : n.kind ∈ ["tableBody", "tableRow", "tableHeader",
    "tableFooter", "tableCell", "tableHeaderCell", "sup"]) : n.IsPlain := by
  simp only [List.mem_cons, List.not_mem_nil, or_false] at h
  rcases h with h | h | h | h | h | h | h <;>
    exact ⟨by simp [isText, h], by simp [isUnrendered, h], by simp [h], by simp [h], by simp [h],
      by simp [h], by simp [h]⟩

theorem visibleText_tableRow (cells : List Node) :
    (tableRow cells).visibleText = visibleTexts cells :=
  (isPlain_of_kind (by simp [tableRow])).visibleText_eq

theorem visibleText_tableBody (rows : List Node) :
    (tableBody rows).visibleText = visibleTexts rows :=
  (isPlain_of_kind (by simp [tableBody])).visibleText_eq

/-- Only the kinds and the texts of the children count. -/
theorem visibleText_withChildren {n : Node} {cs : List Node}
    (h : cs.map (fun c => (c.kind, c.visibleText)) =
      n.childList.map fun c => (c.kind, c.visibleText)) :
    (n.withChildren cs).visibleText = n.visibleText := by
  rw [visibleText_eq, childList_withChildren, h, visibleText_eq n]
  rfl

theorem visibleText_withAlign (n : Node) (a : Option Alignment) :
    ({ n with align := a } : Node).visibleText = n.visibleText := by
  rw [visibleText_eq, visibleText_eq n]
  rfl

/-- By induction on the tree, as cells can stand at any depth below the node. -/
@[simp] theorem visibleText_alignCells (alignment : List (Option String)) (n : Node) :
    (alignCells alignment n).visibleText = n.visibleText := by
  induction n using induct with
  | step n ih =>
      let part (c : Node) : String × String := (c.kind, c.visibleText)
      have each (i : Nat) (c : Node) (hc : c ∈ n.childList) :
          part (alignChild alignment i c) = part c := by
        refine Prod.ext (kind_alignChild alignment c i) ?_
        exact congr_alignChild (fun _ => visibleText_withAlign c _) fun _ _ => ih c hc
      have kept := map_childList_alignCells each
      rw [alignCells_eq] at kept ⊢
      exact visibleText_withChildren kept

theorem visibleText_alignChild (alignment : List (Option String)) (i : Nat) (c : Node) :
    (alignChild alignment i c).visibleText = c.visibleText :=
  congr_alignChild (fun _ => visibleText_withAlign c _) fun _ _ =>
    visibleText_alignCells alignment c

@[simp] theorem visibleTexts_map_alignCells (alignment : List (Option String)) (l : List Node) :
    visibleTexts (l.map (alignCells alignment)) = visibleTexts l := by
  simp [visibleTexts, Function.comp_def]

@[simp] theorem visibleText_asHeaderCell (n : Node) :
    (asHeaderCell n).visibleText = n.visibleText := by
  unfold asHeaderCell
  split
  · next h =>
    rw [(isPlain_of_kind (n := n) (by simp [h])).visibleText_eq,
      (isPlain_of_kind (by simp)).visibleText_eq]
    rfl
  · rfl

@[simp] theorem visibleTexts_map_asHeaderCell (l : List Node) :
    visibleTexts (l.map asHeaderCell) = visibleTexts l := by
  simp [visibleTexts, Function.comp_def]

/-- A table is read in the order in which it is regrouped. -/
theorem contentText_restructureTable {n : Node} (h : n.kind = "table") :
    n.restructureTable.contentText = n.visibleText := by
  have plain : n.isText = false ∧ n.isUnrendered = false := by simp [isText, isUnrendered, h]
  rw [visibleText_eq, visibleFrom, if_neg (by simp [plain, h]), if_neg (by simp [plain, h]),
    if_neg (by simp [h]), if_neg (by simp [h]), if_pos h, textOfKind_parts, textOfKind_parts,
    textOfKind_parts]
  simp only [contentText, restructureTable, childList_withChildren, value_withChildren,
    visibleTexts_append, visibleTexts_cons, visibleTexts_map_alignCells, visibleText_tableBody,
    String.append_assoc]
  cases n.value <;> rfl

theorem visibleText_asHeaderRow {r : Node} (row : r.kind = "tableRow") :
    r.asHeaderRow.visibleText = r.visibleText := by
  have made : r.asHeaderRow.kind = "tableRow" := row
  rw [(isPlain_of_kind (by simp [made])).visibleText_eq,
    (isPlain_of_kind (by simp [row])).visibleText_eq]
  simp only [asHeaderRow, contentText, childList_withChildren, value_withChildren,
    visibleTexts_map_asHeaderCell]

theorem contentText_headerRows {n : Node} (h : n.kind = "tableHeader") :
    n.headerRows.contentText = n.visibleText := by
  rw [(isPlain_of_kind (by simp [h])).visibleText_eq]
  cases held : n.holdsRows with
  | true =>
    have rows : visibleTexts (n.childList.map asHeaderRow) = visibleTexts n.childList := by
      rw [visibleTexts, visibleTexts, List.map_map]
      congr 1
      exact List.map_congr_left fun r member =>
        visibleText_asHeaderRow ((holdsRows_iff.1 held).2 r member)
    rw [headerRows_of_holdsRows held, contentText, childList_withChildren, value_withChildren, rows,
      contentText]
  | false =>
    simp [headerRows_of_cells held, contentText, visibleText_tableRow]

theorem contentText_footerRows {n : Node} (h : n.kind = "tableFooter") :
    n.footerRows.contentText = n.visibleText := by
  rw [(isPlain_of_kind (by simp [h])).visibleText_eq]
  cases held : n.holdsRows with
  | true => rw [footerRows_of_holdsRows held]
  | false => simp [footerRows_of_cells held, contentText, visibleText_tableRow]

theorem contentText_footnoteReference {n : Node} (h : n.kind = "footnoteReference") :
    (n.withChildren [n.footnoteMark]).contentText = n.visibleText := by
  have plain : n.isText = false ∧ n.isUnrendered = false := by simp [isText, isUnrendered, h]
  have mark : n.footnoteMark.visibleText = n.identifier.getD "" := by
    rw [(isPlain_of_kind (by simp [footnoteMark])).visibleText_eq]
    rfl
  rw [visibleText_eq, visibleFrom, if_neg (by simp [plain, h]), if_neg (by simp [plain, h]),
    if_neg (by simp [h]), if_pos h]
  simp only [contentText, childList_withChildren, value_withChildren, visibleTexts_cons,
    visibleTexts_nil, mark, String.append_empty]
  cases n.value <;> rfl

end MarkdownTree.Node
