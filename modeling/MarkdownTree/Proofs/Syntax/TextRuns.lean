import MarkdownTree.Proofs.Syntax.Content
import MarkdownTree.Proofs.Syntax.Tables

/-!
# Runs of text

A reader can cut the same text in many ways: into several tokens, at its line breaks, or below
inline nodes. `Tree.Recut` lists what may differ. None of it is left in the document, because two
lists of trees that are cut differently become the same nodes once neighbouring texts are joined
(`buildAll_of_recut`), and the builder never looks at the nodes of several trees before. So the
induction is on how the trees are cut, and one lemma says that a tree depends on its children only
through the joined nodes that they become (`build_withChildren`).

The texts of a document are in normal form: no two of them stand side by side below any node
(`Node.Separated`).
-/

namespace MarkdownTree

namespace Node

/-- Nowhere in the tree do two texts stand side by side. -/
def Separated (n : Node) : Prop := ∀ m ∈ n.preorder, m.childList.IsChain Syntax.Apart

theorem separated_iff {n : Node} :
    n.Separated ↔ n.childList.IsChain Syntax.Apart ∧ ∀ c ∈ n.childList, c.Separated :=
  forall_mem_preorder_iff

theorem Separated.withValue {n : Node} (h : n.Separated) (value : Option String) :
    ({ n with value } : Node).Separated := by
  rw [separated_iff] at h ⊢
  exact h

end Node

namespace Syntax

open MarkdownTree.Syntax.Tree

variable {position : Bool} {t : Tree} {ts us cs : List Tree} {n : Node} {ns ms : List Node}

/-! ### Texts are separated -/

/-- Whether nodes are apart depends on their kinds only. -/
theorem isChain_congr (chain : ns.IsChain Apart) (same : ns.map Node.kind = ms.map Node.kind) :
    ms.IsChain Apart := by
  have kinds (l : List Node) : (l.map Node.kind).IsChain (fun a b => ¬(a = "text" ∧ b = "text")) ↔
      l.IsChain Apart := List.isChain_map Node.kind
  rwa [← kinds, ← same, kinds]

/-- Nodes that are no texts can follow any others. -/
theorem isChain_append_of_ne (chain : ns.IsChain Apart) (other : ∀ m ∈ ms, m.kind ≠ "text") :
    (ns ++ ms).IsChain Apart := by
  induction ms generalizing ns with
  | nil => simpa using chain
  | cons m ms ih =>
    rw [List.forall_mem_cons] at other
    have longer : (ns ++ [m]).IsChain Apart :=
      List.IsChain.append chain (.singleton m) fun a _ b last texts =>
        other.1 (Option.mem_some_iff.1 last ▸ texts.2)
    simpa using ih longer other.2

theorem separated_joinTexts (each : ∀ n ∈ ns, n.Separated) : ∀ n ∈ joinTexts ns, n.Separated :=
  forall_mem_joinTexts (fun _ value _ separated => separated.withValue value) each

/-- Taking the box off a task changes the value of one text. -/
theorem separated_takeTask (chain : ns.IsChain Apart) (each : ∀ n ∈ ns, n.Separated) :
    (takeTask ns).2.IsChain Apart ∧ ∀ n ∈ (takeTask ns).2, n.Separated := by
  rcases takeTask_cases ns with ⟨same, _⟩ |
      ⟨p, rest, m, ms, done, text, rfl, _, children, _, _, taken⟩
  · rw [same]
    exact ⟨chain, each⟩
  · rw [List.forall_mem_cons, Node.separated_iff, children, List.forall_mem_cons] at each
    obtain ⟨⟨inside, first, others⟩, after⟩ := each
    rw [taken]
    refine ⟨isChain_congr chain rfl, List.forall_mem_cons.2 ⟨?_, after⟩⟩
    rw [Node.separated_iff, Node.childList_withChildren]
    refine ⟨isChain_congr inside rfl, List.forall_mem_cons.2 ⟨?_, others⟩⟩
    exact first.withValue _

/-- The rows of a table are apart, and so are their cells. -/
theorem separated_of_rows {rows : List (Tree × Tree)}
    (content : ∀ r ∈ rows, ∀ cell ∈ r.2.children, ∀ children,
      buildAll position cell.children = .ok children →
        children.IsChain Apart ∧ ∀ c ∈ children, c.Separated)
    (made : List.Forall₂ (RowBecomes position) rows ns) :
    ns.IsChain Apart ∧ ∀ n ∈ ns, n.Separated := by
  have each : ∀ n ∈ ns, n.kind ≠ "text" ∧ n.Separated := by
    intro n hn
    obtain ⟨r, hr, cells, inside, rfl⟩ := exists_of_forall₂ made hn
    have childList : (rowNode position r.1 r.2 cells).childList = cells := by
      unfold rowNode
      split <;> rfl
    have cellNodes : ∀ d ∈ cells, d.kind ≠ "text" ∧ d.Separated := by
      intro d hd
      obtain ⟨cell, there, children, built, rfl⟩ := exists_of_forall₂ inside hd
      have other : "tableCell" ≠ "text" := by decide
      exact ⟨other, Node.separated_iff.2 (content r hr cell there children built)⟩
    refine ⟨?_, Node.separated_iff.2 ?_⟩
    · unfold rowNode
      split <;> simp
    · rw [childList]
      exact ⟨isChain_append_of_ne .nil fun d hd => (cellNodes d hd).1, fun d hd =>
        (cellNodes d hd).2⟩
  exact ⟨isChain_append_of_ne .nil fun n hn => (each n hn).1, fun n hn => (each n hn).2⟩

/-- Joining takes care of the nodes side by side, whatever each tree has become. -/
theorem separated_of_buildAll
    (each : ∀ u ∈ ts, ∀ ns, build position u = .ok ns → ∀ n ∈ ns, n.Separated)
    (built : buildAll position ts = .ok ns) : ns.IsChain Apart ∧ ∀ n ∈ ns, n.Separated := by
  obtain ⟨cs, nodes, rfl⟩ := buildAll_eq_ok.1 built
  exact ⟨isChain_joinTexts cs, separated_joinTexts (forall_of_buildEach each nodes)⟩

/-- By induction on the tree along its parts. -/
theorem separated_of_build (h : build position t = .ok ns) : ∀ n ∈ ns, n.Separated := by
  induction t using Tree.induct generalizing ns with
  | step t ih =>
    have part : ∀ u ∈ t.parts, ∀ ns, build position u = .ok ns → ∀ n ∈ ns, n.Separated :=
      fun u hu ns made => ih u (sizeOf_lt_of_mem_parts hu) made
    obtain ⟨cs, each, formed⟩ := formed_of_build h
    obtain ⟨chain, joined⟩ := separated_of_buildAll part (buildAll_eq_ok.2 ⟨cs, each, rfl⟩)
    cases formed with
    | spliced _ => exact joined
    | @node n _ _ _ below =>
      refine List.forall_mem_singleton.2 (Node.separated_iff.2 ?_)
      cases below with
      | joined _ _ children => exact children ▸ ⟨chain, joined⟩
      | task _ _ children => exact children ▸ separated_takeTask chain joined
      | regrouped table _ =>
        obtain ⟨rows, made, same⟩ := (build_table_eq_ok table).1 h
        cases same
        refine separated_of_rows
          (fun r hr cell hc children => separated_of_buildAll fun u hu => ?_) made
        exact part u (mem_parts_of_cell table (mem_cells_of_mem_sectionRows hr hc) hu)

/-! ### Cutting differently -/

/-- The tree with other children. -/
def Tree.withChildren (t : Tree) (cs : List Tree) : Tree := { t with children := cs }

/-- Two lists of trees that hold the same text, cut differently. In a table only what the cells
hold is cut. -/
inductive Tree.Recut : List Tree → List Tree → Prop
  | same (ts : List Tree) : Recut ts ts
  | symm {ts us : List Tree} : Recut ts us → Recut us ts
  | trans {ts us vs : List Tree} : Recut ts us → Recut us vs → Recut ts vs
  | append {ts us vs ws : List Tree} : Recut ts us → Recut vs ws → Recut (ts ++ vs) (us ++ ws)
  /-- A text is cut in two. -/
  | text {t u v : Tree} {a b : String} : t.kind = "text" → u.kind = "text" → v.kind = "text" →
      t.content = some (a ++ b) → u.content = some a → v.content = some b → Recut [t] [u, v]
  /-- A line break is a text. -/
  | softbreak {t u : Tree} : t.kind = "softbreak" → u.kind = "text" → u.content = some "\n" →
      Recut [t] [u]
  /-- What an inline node holds stands in its place. -/
  | inline {t : Tree} : t.kind = "inline" → Recut [t] t.children
  | inside {t : Tree} {cs : List Tree} : t.kind ≠ "table" → Recut t.children cs →
      Recut [t] [t.withChildren cs]
  | inCell {t section_ row cell : Tree} {cs : List Tree}
      {sections sections' rows rows' cells cells' : List Tree} :
      t.kind = "table" → t.children = sections ++ section_ :: sections' →
      section_.children = rows ++ row :: rows' → row.children = cells ++ cell :: cells' →
      Recut cell.children cs →
      Recut [t] [t.withChildren (sections ++ section_.withChildren
        (rows ++ row.withChildren (cells ++ cell.withChildren cs :: cells') :: rows') ::
          sections')]

theorem buildEach_append_eq (position : Bool) (ts us : List Tree) :
    buildEach position (ts ++ us) = (do
      let as ← buildEach position ts
      let bs ← buildEach position us
      return as ++ bs) := by
  induction ts with
  | nil => simp [buildEach]
  | cons t ts ih =>
    rw [List.cons_append, buildEach, buildEach, ih]
    simp only [bind_assoc, pure_bind, List.append_assoc]

/-- Trees can be built in two parts, whose nodes are joined at the end. -/
theorem buildAll_append (position : Bool) (ts us : List Tree) :
    buildAll position (ts ++ us) = (do
      let as ← buildAll position ts
      let bs ← buildAll position us
      return joinTexts (as ++ bs)) := by
  rw [buildAll, buildAll, buildAll, buildEach_append_eq]
  simp only [bind_assoc, pure_bind, joinTexts_append]

theorem buildAll_singleton (position : Bool) (t : Tree) :
    buildAll position [t] = (do return joinTexts (← build position t)) := by
  rw [buildAll, buildEach, buildEach]
  simp only [bind_assoc, pure_bind, List.append_nil]

/-- A node depends on the children of its tree through what all of them become. -/
theorem build_withChildren (table : t.kind ≠ "table")
    (same : buildAll position cs = buildAll position t.children) :
    build position (t.withChildren cs) = build position t := by
  have content : contentOf (t.withChildren cs) = contentOf t := rfl
  have language : languageOf (t.withChildren cs) = languageOf t := rfl
  have attr (name : String) : attr (t.withChildren cs) name = attr t name := rfl
  rw [build, build, content, language]
  simp only [attr]
  dsimp only [Tree.withChildren]
  rw [same]
  cases Entries.get? containerKinds t.kind with
  | some kind => rfl
  | none =>
    dsimp only
    split
    case h_11 isTable => exact absurd isTable table
    all_goals rfl

theorem build_inline (inline : t.kind = "inline") :
    build position t = buildAll position t.children := by
  rw [build]
  simp only [inline]
  rfl

theorem build_text (text : t.kind = "text") :
    build position t = .ok [{ kind := "text", value := t.content }] := by
  rw [build]
  simp only [text]
  rfl

theorem build_softbreak (softbreak : t.kind = "softbreak") :
    build position t = .ok [{ kind := "text", value := some "\n" }] := by
  rw [build]
  simp only [softbreak]
  rfl

/-! ### Cutting in the cells of a table -/

section cells

variable {cell row section_ : Tree} {cells cells' rows rows' sections sections' : List Tree}
variable (same : buildAll position cs = buildAll position cell.children)

include same

theorem buildCells_recut :
    buildCells position (cells ++ cell.withChildren cs :: cells') =
      buildCells position (cells ++ cell :: cells') := by
  induction cells with
  | nil =>
    rw [List.nil_append, List.nil_append, buildCells, buildCells]
    exact congrArg (· >>= _) same
  | cons c cells ih => rw [List.cons_append, List.cons_append, buildCells, buildCells, ih]

theorem buildRows_recut {kind : String} {lines : Option (Int × Int)} {content : TableContent}
    (inRow : row.children = cells ++ cell :: cells') :
    buildRows position kind lines content
        (rows ++ row.withChildren (cells ++ cell.withChildren cs :: cells') :: rows') =
      buildRows position kind lines content (rows ++ row :: rows') := by
  induction rows generalizing content with
  | nil =>
    have aligned : (cells ++ cell.withChildren cs :: cells').map cellAlignment =
        row.children.map cellAlignment := by
      rw [inRow, List.map_append, List.map_append]
      rfl
    rw [List.nil_append, List.nil_append, buildRows, buildRows]
    dsimp only [Tree.withChildren] at aligned ⊢
    rw [aligned, inRow]
    exact congrArg (· >>= _) (buildCells_recut same)
  | cons r rows ih =>
    rw [List.cons_append, List.cons_append, buildRows, buildRows]
    simp only [ih]

theorem buildSections_recut {content : TableContent}
    (inSection : section_.children = rows ++ row :: rows')
    (inRow : row.children = cells ++ cell :: cells') :
    buildSections position content (sections ++ section_.withChildren
        (rows ++ row.withChildren (cells ++ cell.withChildren cs :: cells') :: rows') ::
          sections') =
      buildSections position content (sections ++ section_ :: sections') := by
  induction sections generalizing content with
  | nil =>
    rw [List.nil_append, List.nil_append, buildSections, buildSections, inSection]
    exact congrArg (· >>= _) (buildRows_recut same inRow)
  | cons s sections ih =>
    rw [List.cons_append, List.cons_append, buildSections, buildSections]
    simp only [ih]

end cells

/-- Trees that are cut differently become the same joined nodes, or fail alike. By induction on how
they are cut. -/
theorem buildAll_of_recut (h : Recut ts us) : buildAll position us = buildAll position ts := by
  induction h with
  | same _ => rfl
  | symm _ ih => exact ih.symm
  | trans _ _ first second => exact second.trans first
  | append _ _ first second => rw [buildAll_append, buildAll_append, first, second]
  | @text t u v a b text text' text'' content content' content'' =>
    rw [buildAll, buildEach, buildEach, buildEach, buildAll_singleton, build_text text,
      build_text text', build_text text'', content, content', content'']
    rfl
  | @softbreak t u softbreak text content =>
    rw [buildAll_singleton, buildAll_singleton, build_softbreak softbreak, build_text text, content]
  | @inline t inline =>
    rw [buildAll_singleton, build_inline inline, buildAll]
    simp only [bind_assoc, pure_bind, joinTexts_joinTexts]
  | @inside t cs table _ ih =>
    rw [buildAll_singleton, buildAll_singleton, build_withChildren table ih]
  | @inCell t section_ row cell cs _ _ _ _ _ _ table sections rows cells _ ih =>
    rw [buildAll_singleton, buildAll_singleton, build_table table,
      build_table (t := t.withChildren _) table, sections, Tree.withChildren,
      buildSections_recut ih rows cells]

/-! ### Documents -/

variable {env : Environment}

theorem separated_of_document {doc : Node} (built : buildDocument position ts env = .ok doc) :
    doc.Separated := by
  obtain ⟨body, targets, notes, first, plain, third, rfl⟩ := buildDocument_eq_ok built
  have joined {us : List Tree} {ds : List Node} (built : buildAll position us = .ok ds) :
      ds.IsChain Apart ∧ ∀ d ∈ ds, d.Separated :=
    separated_of_buildAll (fun _ _ _ made => separated_of_build made) built
  have target : ∀ n ∈ targets, n.kind ≠ "text" ∧ n.Separated := by
    intro n hn
    rw [(plain n hn).kind, Node.separated_iff, (plain n hn).childless]
    exact ⟨by decide, .nil, nofun⟩
  have note : ∀ n ∈ notes, n.kind ≠ "text" ∧ n.Separated := by
    intro n hn
    obtain ⟨f, _, made⟩ := exists_of_forall₂ third hn
    obtain ⟨children, body, rfl⟩ := inlineFootnote_eq_ok made
    have paragraph : ({ kind := "paragraph", children := some children } : Node).Separated :=
      Node.separated_iff.2 (joined body)
    have other : "footnoteDefinition" ≠ "text" := by decide
    exact ⟨other, Node.separated_iff.2 ⟨.singleton _, List.forall_mem_singleton.2 paragraph⟩⟩
  obtain ⟨chain, inside⟩ := joined first
  rw [Node.separated_iff]
  refine ⟨isChain_append_of_ne (isChain_append_of_ne chain ?_) ?_, ?_⟩
  · exact fun n hn => (target n hn).1
  · exact fun n hn => (note n hn).1
  · change ∀ n ∈ body ++ targets ++ notes, n.Separated
    rw [List.forall_mem_append, List.forall_mem_append]
    exact ⟨⟨inside, fun n hn => (target n hn).2⟩, fun n hn => (note n hn).2⟩

/-- The texts of a document are in normal form, and they do not depend on how the text was cut. No
node has two texts side by side among its children. Trees that are cut differently make the same
document, in which the same items are tasks, or they fail alike. -/
theorem texts_of_any_cut (position : Bool) (ts : List Tree) (env : Environment) :
    (∀ doc, buildDocument position ts env = .ok doc → doc.Separated) ∧
      ∀ us, Recut ts us → buildDocument position us env = buildDocument position ts env := by
  refine ⟨fun doc built => separated_of_document built, fun us cut => ?_⟩
  rw [buildDocument, buildDocument, buildAll_of_recut cut]

/-- A text. -/
def textTree (s : String) : Tree := { kind := "text", content := some s }

/-- A task and a table, given the trees of their texts. -/
def doneTask (task cell : List Tree) : List Tree :=
  let around (kind : String) (children : List Tree) : Tree := { kind, children }
  [around "list_item" [around "paragraph" task],
    around "table" [around "thead" [around "tr" [around "th" cell]]]]

theorem recut_doneTask {task task' cell cell' : List Tree} (recut : Recut task task')
    (recutCell : Recut cell cell') : Recut (doneTask task cell) (doneTask task' cell') := by
  let row : Tree := { kind := "tr", children := [{ kind := "th", children := cell }] }
  let head : Tree := { kind := "thead", children := [row] }
  have inTable := @Recut.inCell { kind := "table", children := [head] } head row
    { kind := "th", children := cell } cell' [] [] [] [] [] [] rfl rfl rfl rfl recutCell
  exact .append (.inside (by simp) (.inside (by simp) recut)) inTable

/-- The box and the text of a task in pieces, with a line break of its own and without the inline
node around them: the document is the same. -/
theorem doneTask_of_any_cut :
    let whole := doneTask
      [{ kind := "inline", children := [textTree "[x] do", { kind := "softbreak" }, textTree "ne"] }]
      [textTree "ab"]
    let pieces := doneTask [textTree "[", textTree "x] do", textTree "\n", textTree "ne"]
      [textTree "a", textTree "b"]
    let item : Node :=
      { kind := "listItem", checked := some true,
        children := some [.branch "paragraph" [.leaf "text" "do\nne"]] }
    let table : Node :=
      { kind := "table", align := some (.columns [none]), children := some [
          .branch "tableHeader" [.branch "tableCell" [.leaf "text" "ab"]]] }
    Recut whole pieces ∧ buildDocument false whole {} = .ok (.branch "root" [item, table]) ∧
      (Node.branch "root" [item, table]).Separated ∧
      buildDocument false pieces {} = .ok (.branch "root" [item, table]) := by
  intro whole pieces item table
  have box : Recut [textTree "[x] do"] [textTree "[", textTree "x] do"] :=
    .text (a := "[") (b := "x] do") rfl rfl rfl rfl rfl rfl
  have lineBreak : Recut [{ kind := "softbreak" }] [textTree "\n"] := .softbreak rfl rfl rfl
  have cell : Recut [textTree "ab"] [textTree "a", textTree "b"] :=
    .text (a := "a") (b := "b") rfl rfl rfl rfl rfl rfl
  have task := box.append (lineBreak.append (.same [textTree "ne"]))
  have cut : Recut whole pieces := recut_doneTask (.trans (.inline rfl) task) cell
  have built : buildDocument false whole {} = .ok (.branch "root" [item, table]) := by cbv
  obtain ⟨separated, alike⟩ := texts_of_any_cut false whole {}
  exact ⟨cut, built, separated _ built, (alike pieces cut).trans built⟩

end Syntax

end MarkdownTree
