import MarkdownTree.Syntax.Document

/-!
# The parts of a syntax tree that a document is made of

A document is not made of every node of its syntax tree. Some kinds are built from their own
fields alone, and the sections, rows and cells of a table give way to what the cells hold.
`Tree.parts` is what is left below a node and `Tree.skipped` what is passed over, so
`Tree.read` lists the nodes that the builder gets to see, in their order.
-/

namespace MarkdownTree.Syntax

namespace Tree

/-- The nodes of a tree, each before its children. -/
def preorder (t : Tree) : List Tree := t :: t.children.attach.flatMap fun c => preorder c.1
termination_by sizeOf t
decreasing_by exact sizeOf_lt_of_mem c.2

theorem preorder_eq (t : Tree) : t.preorder = t :: t.children.flatMap preorder := by
  rw [preorder, List.flatMap_def, List.attach_map_val, List.flatMap_def]

/-- A property of all trees holds if it holds of a tree whenever it holds of all smaller ones. -/
theorem induct {P : Tree → Prop} (step : ∀ t, (∀ u, sizeOf u < sizeOf t → P u) → P t) (t : Tree) :
    P t :=
  step t fun u _ => induct step u
termination_by sizeOf t

/-- The kinds that are built without their children. -/
def closedKinds : List String :=
  ["fence", "code_block", "html_block", "html_inline", "hr", "front_matter", "footnote_ref", "text",
    "softbreak", "hardbreak", "code_inline", "image"]

/-- The rows of the sections of a table. -/
def rows (t : Tree) : List Tree := t.children.flatMap children

/-- The cells of the rows of a table. -/
def cells (t : Tree) : List Tree := t.rows.flatMap children

/-- The trees whose nodes end up below the node of `t`. -/
def parts (t : Tree) : List Tree :=
  if t.kind ∈ closedKinds then []
  else if t.kind = "table" then t.cells.flatMap children
  else t.children

/-- The trees below `t` that are passed over on the way to its parts. -/
def skipped (t : Tree) : List Tree :=
  if t.kind ∈ closedKinds then t.children.flatMap preorder
  else if t.kind = "table" then t.children ++ t.rows ++ t.cells
  else []

theorem sizeOf_lt_of_mem_flatMap {ts : List Tree} {u : Tree} {n : Nat}
    (h : u ∈ ts.flatMap children) (bound : ∀ t ∈ ts, sizeOf t < n) : sizeOf u < n := by
  obtain ⟨t, ht, hu⟩ := List.mem_flatMap.1 h
  exact Nat.lt_trans (sizeOf_lt_of_mem hu) (bound t ht)

theorem sizeOf_lt_of_mem_parts {t u : Tree} (h : u ∈ t.parts) : sizeOf u < sizeOf t := by
  have child : ∀ c ∈ t.children, sizeOf c < sizeOf t := fun _ => sizeOf_lt_of_mem
  have row : ∀ r ∈ t.rows, sizeOf r < sizeOf t := fun _ hr => sizeOf_lt_of_mem_flatMap hr child
  have cell : ∀ c ∈ t.cells, sizeOf c < sizeOf t := fun _ hc => sizeOf_lt_of_mem_flatMap hc row
  unfold parts at h
  split at h
  · contradiction
  split at h
  · exact sizeOf_lt_of_mem_flatMap h cell
  · exact child u h

/-- The trees that the builder makes nodes of, each before its parts. -/
def read (t : Tree) : List Tree := t :: t.parts.attach.flatMap fun u => read u.1
termination_by sizeOf t
decreasing_by exact sizeOf_lt_of_mem_parts u.2

theorem read_eq (t : Tree) : t.read = t :: t.parts.flatMap read := by
  rw [read, List.flatMap_def, List.attach_map_val, List.flatMap_def]

variable {kind : String}

/-- Trees that are not of a kind can be left out in a search for it. -/
theorem filter_flatMap_preorder {ts : List Tree} (h : ∀ t ∈ ts, t.kind ≠ kind) :
    (ts.flatMap preorder).filter (·.kind = kind) =
      ((ts.flatMap children).flatMap preorder).filter (·.kind = kind) := by
  induction ts with
  | nil => rfl
  | cons t ts ih =>
    rw [List.flatMap_cons, List.flatMap_cons, List.flatMap_append, List.filter_append,
      List.filter_append, ih fun u hu => h u (List.mem_cons_of_mem t hu), preorder_eq,
      List.filter_cons_of_neg (by simpa using h t List.mem_cons_self)]

/-- What is passed over does not count, if nothing of the kind is. -/
theorem filter_parts {t : Tree} (h : ∀ u ∈ t.skipped, u.kind ≠ kind) :
    (t.children.flatMap preorder).filter (·.kind = kind) =
      (t.parts.flatMap preorder).filter (·.kind = kind) := by
  unfold skipped at h
  unfold parts
  split
  · rw [if_pos ‹_›] at h
    simpa using h
  rw [if_neg ‹_›] at h
  split
  · rw [if_pos ‹_›] at h
    simp only [List.mem_append, or_imp, forall_and] at h
    obtain ⟨⟨sections, rows⟩, cells⟩ := h
    rw [filter_flatMap_preorder sections, ← Tree.rows, filter_flatMap_preorder rows,
      ← Tree.cells, filter_flatMap_preorder cells]
  · rfl

theorem mem_preorder_self (t : Tree) : t ∈ t.preorder := by
  rw [preorder_eq]
  exact List.mem_cons_self

theorem mem_preorder_of_child {t c u : Tree} (h : c ∈ t.children) (hu : u ∈ c.preorder) :
    u ∈ t.preorder := by
  rw [preorder_eq]
  exact List.mem_cons_of_mem _ (List.mem_flatMap.2 ⟨c, h, hu⟩)

theorem mem_preorder_of_part {t u v : Tree} (h : u ∈ t.parts) (hv : v ∈ u.preorder) :
    v ∈ t.preorder := by
  unfold parts at h
  split at h
  · contradiction
  split at h
  · obtain ⟨c, hc, hu⟩ := List.mem_flatMap.1 h
    obtain ⟨r, hr, hc⟩ := List.mem_flatMap.1 hc
    obtain ⟨s, hs, hr⟩ := List.mem_flatMap.1 hr
    exact mem_preorder_of_child hs (mem_preorder_of_child hr
      (mem_preorder_of_child hc (mem_preorder_of_child hu hv)))
  · exact mem_preorder_of_child h hv

/-- What is read is part of the tree. -/
theorem mem_preorder_of_read {t u : Tree} (h : u ∈ t.read) : u ∈ t.preorder := by
  induction t using induct with
  | step t ih =>
    rw [read_eq, List.mem_cons] at h
    rcases h with rfl | h
    · exact mem_preorder_self u
    · obtain ⟨v, hv, hu⟩ := List.mem_flatMap.1 h
      exact mem_preorder_of_part hv (ih v (sizeOf_lt_of_mem_parts hv) hu)

/-- Everything of a kind is read, if nothing of it is passed over. -/
theorem filter_read {t : Tree} (h : ∀ u ∈ t.preorder, ∀ v ∈ u.skipped, v.kind ≠ kind) :
    t.read.filter (·.kind = kind) = t.preorder.filter (·.kind = kind) := by
  induction t using induct with
  | step t ih =>
    have below : (t.parts.flatMap read).filter (·.kind = kind) =
        (t.parts.flatMap preorder).filter (·.kind = kind) := by
      have each (u : Tree) (hu : u ∈ t.parts) :
          u.read.filter (·.kind = kind) = u.preorder.filter (·.kind = kind) :=
        ih u (sizeOf_lt_of_mem_parts hu) fun v hv => h v (mem_preorder_of_part hu hv)
      rw [List.filter_flatMap, List.filter_flatMap, List.flatMap_def, List.flatMap_def,
        List.map_congr_left each]
    rw [read_eq, preorder_eq, List.filter_cons, List.filter_cons, below,
      filter_parts (h t (mem_preorder_self t))]

end Tree

end MarkdownTree.Syntax
