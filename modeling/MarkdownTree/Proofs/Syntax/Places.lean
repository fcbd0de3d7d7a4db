import MarkdownTree.Proofs.Syntax.Content
import MarkdownTree.Proofs.Syntax.Tables

/-!
# Where places come from

A node of a document can have been made of a tree in several ways: it is what the tree became, or a
cell, a row or a header of a table, or the paragraph of a task after its box was taken off. `MadeOf`
lists them. Every node that has a place has that of a tree of which it was made
(`allSourced_of_document`), wherever it was moved after that. Texts have none, so joining them
cannot go wrong.
-/

namespace MarkdownTree.Syntax

open MarkdownTree.Syntax.Tree

variable {position : Bool} {t : Tree} {ts us : List Tree} {n : Node} {ns : List Node}

/-- The node was made of the tree. A header is made of its section, and the paragraph of a task is
made of the paragraph that had the box. -/
inductive MadeOf (position : Bool) : Tree → Node → Prop
  | node {t : Tree} {n : Node} (inline : t.kind ≠ "inline") (made : Becomes position t n) :
      MadeOf position t n
  | task {t : Tree} {p n : Node} {done : Option Bool} (made : MadeOf position t p)
      (taken : takeTask [p] = (done, [n])) : MadeOf position t n
  | cell {cell : Tree} {n : Node} (made : CellBecomes position cell n) : MadeOf position cell n
  | header {section_ row : Tree} {n : Node} (head : section_.kind = "thead")
      (made : RowBecomes position (section_, row) n) : MadeOf position section_ n
  | row {section_ row : Tree} {n : Node} (body : section_.kind ≠ "thead")
      (made : RowBecomes position (section_, row) n) : MadeOf position row n

/-- The node has no place, or that of one of the trees of which it was made. -/
def Sourced (position : Bool) (ts : List Tree) (n : Node) : Prop :=
  (n.kind = "text" → n.position = none) ∧
    (n.position = none ∨ ∃ t ∈ ts, MadeOf position t n ∧ n.position = placeOf position t.lines)

/-- So it is with every node of the tree. -/
def AllSourced (position : Bool) (ts : List Tree) (n : Node) : Prop :=
  ∀ m ∈ n.preorder, Sourced position ts m

theorem allSourced_iff :
    AllSourced position ts n ↔
      Sourced position ts n ∧ ∀ c ∈ n.childList, AllSourced position ts c :=
  Node.forall_mem_preorder_iff

theorem AllSourced.mono (sub : ts ⊆ us) (h : AllSourced position ts n) :
    AllSourced position us n := by
  intro m hm
  obtain ⟨text, source⟩ := h m hm
  refine ⟨text, source.imp_right ?_⟩
  rintro ⟨t, ht, made⟩
  exact ⟨t, sub ht, made⟩

/-- A node without a place comes from anywhere. -/
theorem allSourced_of_unplaced (unplaced : n.position = none)
    (below : ∀ c ∈ n.childList, AllSourced position ts c) : AllSourced position ts n :=
  allSourced_iff.2 ⟨⟨fun _ => unplaced, .inl unplaced⟩, below⟩

theorem allSourced_of_madeOf (ht : t ∈ ts) (text : n.kind ≠ "text") (made : MadeOf position t n)
    (place : n.position = placeOf position t.lines)
    (below : ∀ c ∈ n.childList, AllSourced position ts c) : AllSourced position ts n :=
  allSourced_iff.2 ⟨⟨fun isText => absurd isText text, .inr ⟨t, ht, made, place⟩⟩, below⟩

theorem AllSourced.withValue (h : AllSourced position ts n) (text : n.kind = "text")
    (value : Option String) : AllSourced position ts { n with value } := by
  obtain ⟨source, below⟩ := allSourced_iff.1 h
  exact allSourced_of_unplaced (n := { n with value }) (source.1 text) below

theorem allSourced_joinTexts (each : ∀ n ∈ ns, AllSourced position ts n) :
    ∀ n ∈ joinTexts ns, AllSourced position ts n :=
  forall_mem_joinTexts (fun _ value text sourced => sourced.withValue text value) each

/-- The paragraph of a task keeps its place. -/
theorem allSourced_takeTask (each : ∀ n ∈ ns, AllSourced position ts n) :
    ∀ n ∈ (takeTask ns).2, AllSourced position ts n := by
  rcases takeTask_cases ns with ⟨same, _⟩ |
      ⟨p, rest, m, ms, done, text, rfl, paragraph, children, isText, marker, taken⟩
  · rw [same]
    exact each
  · rw [List.forall_mem_cons, allSourced_iff, children, List.forall_mem_cons] at each
    obtain ⟨⟨⟨_, source⟩, first, others⟩, after⟩ := each
    have alone : takeTask [p] =
        (some done, [p.withChildren ({ m with value := some text } :: ms)]) :=
      takeTask_of_marker paragraph children isText marker
    have below : ∀ c ∈ { m with value := some text } :: ms, AllSourced position ts c :=
      List.forall_mem_cons.2 ⟨first.withValue isText _, others⟩
    rw [taken]
    refine List.forall_mem_cons.2 ⟨?_, after⟩
    rcases source with unplaced | ⟨t, ht, made, place⟩
    · exact allSourced_of_unplaced unplaced below
    · exact allSourced_of_madeOf ht (by simp [paragraph]) (.task made alone) place below

/-- Headers have the places of their sections, rows and cells their own ones. -/
theorem allSourced_of_rows {rows : List (Tree × Tree)}
    (here : ∀ r ∈ rows, r.1 ∈ ts ∧ r.2 ∈ ts ∧ ∀ cell ∈ r.2.children, cell ∈ ts)
    (content : ∀ r ∈ rows, ∀ cell ∈ r.2.children, ∀ children,
      buildAll position cell.children = .ok children → ∀ c ∈ children, AllSourced position ts c)
    (made : List.Forall₂ (RowBecomes position) rows ns) : ∀ n ∈ ns, AllSourced position ts n := by
  intro n hn
  obtain ⟨⟨section_, row⟩, hr, becomes⟩ := exists_of_forall₂ made hn
  obtain ⟨inSection, inRow, inCells⟩ := here _ hr
  obtain ⟨cells, inside, same⟩ := id becomes
  have cellNodes : ∀ d ∈ cells, AllSourced position ts d := by
    intro d hd
    obtain ⟨cell, there, children, built, rfl⟩ := exists_of_forall₂ inside hd
    have other : "tableCell" ≠ "text" := by decide
    exact allSourced_of_madeOf (inCells cell there) other (.cell ⟨children, built, rfl⟩) rfl
      (content _ hr cell there children built)
  by_cases head : section_.kind = "thead"
  · rw [rowNode, if_pos head] at same
    subst same
    exact allSourced_of_madeOf inSection (by simp) (.header head becomes) rfl cellNodes
  · rw [rowNode, if_neg head] at same
    subst same
    exact allSourced_of_madeOf inRow (by simp) (.row head becomes) rfl cellNodes

theorem allSourced_of_buildAll
    (each : ∀ u ∈ us, ∀ ns, build position u = .ok ns → ∀ n ∈ ns, AllSourced position ts n)
    (built : buildAll position us = .ok ns) : ∀ n ∈ ns, AllSourced position ts n := by
  obtain ⟨cs, nodes, rfl⟩ := buildAll_eq_ok.1 built
  exact allSourced_joinTexts (forall_of_buildEach each nodes)

/-- By induction on the tree along its parts. -/
theorem allSourced_of_build (h : build position t = .ok ns) :
    ∀ n ∈ ns, AllSourced position t.preorder n := by
  induction t using Tree.induct generalizing ns with
  | step t ih =>
    have part : ∀ u ∈ t.parts, ∀ ns, build position u = .ok ns →
        ∀ n ∈ ns, AllSourced position t.preorder n := fun u hu ns built n hn =>
      (ih u (sizeOf_lt_of_mem_parts hu) built n hn).mono fun _ => mem_preorder_of_part hu
    obtain ⟨cs, each, formed⟩ := formed_of_build h
    have joined := allSourced_of_buildAll part (buildAll_eq_ok.2 ⟨cs, each, rfl⟩)
    cases formed with
    | spliced _ => exact joined
    | @node n inline kind _ below place =>
      have children : ∀ c ∈ n.childList, AllSourced position t.preorder c := by
        cases below with
        | joined _ _ children => exact children ▸ joined
        | task _ _ children => exact children ▸ allSourced_takeTask joined
        | regrouped table _ =>
          obtain ⟨rows, made, same⟩ := (build_table_eq_ok table).1 h
          cases same
          refine allSourced_of_rows (fun r hr => mem_preorder_of_sectionRows hr)
            (fun r hr cell hc ns built => allSourced_of_buildAll (fun u hu => ?_) built) made
          exact part u (mem_parts_of_cell table (mem_cells_of_mem_sectionRows hr hc) hu)
      refine List.forall_mem_singleton.2 ?_
      rcases place with ⟨_, unplaced⟩ | ⟨placed, place⟩
      · exact allSourced_of_unplaced unplaced children
      · have text : n.kind ≠ "text" := by
          have made : BecomesNode position t n := ⟨inline, h⟩
          have table : ∀ kind ∈ textKinds, kind ∈ unplacedKinds := by decide
          exact fun isText => placed (table _ (made.kind_eq_text_iff.1 isText))
        exact allSourced_of_madeOf (mem_preorder_self t) text (.node inline h) place children

variable {env : Environment} {doc : Node}

/-- No node of a document has a place of its own making. -/
theorem allSourced_of_document (built : buildDocument position ts env = .ok doc) :
    AllSourced position (allTrees ts env) doc := by
  obtain ⟨body, targets, notes, first, plain, third, rfl⟩ := buildDocument_eq_ok built
  have all {us : List Tree} (sub : us.flatMap Tree.preorder ⊆ allTrees ts env) {ds : List Node}
      (built : buildAll position us = .ok ds) :
      ∀ d ∈ ds, AllSourced position (allTrees ts env) d := by
    refine allSourced_of_buildAll (fun u hu ns made n hn => ?_) built
    exact (allSourced_of_build made n hn).mono fun v hv => sub (List.mem_flatMap.2 ⟨u, hu, hv⟩)
  refine allSourced_of_unplaced rfl ?_
  change ∀ n ∈ body ++ targets ++ notes, _
  rw [List.forall_mem_append, List.forall_mem_append]
  refine ⟨⟨all (fun _ => mem_allTrees_of_body) first, fun n hn => ?_⟩, fun n hn => ?_⟩
  · exact allSourced_of_unplaced (plain n hn).unplaced ((plain n hn).childless ▸ nofun)
  · obtain ⟨f, hf, made⟩ := exists_of_forall₂ third hn
    obtain ⟨children, body, rfl⟩ := inlineFootnote_eq_ok made
    exact allSourced_of_unplaced rfl (List.forall_mem_singleton.2
      (allSourced_of_unplaced rfl (all (fun _ => mem_allTrees_of_note hf) body)))

end MarkdownTree.Syntax
