import MarkdownTree.Proofs.Syntax.Places
import MarkdownTree.Proofs.Syntax.Unplaced

/-!
# Places are decoration

Noting where the nodes of a document come from changes neither the document nor what is rendered of
it, and every place that is noted is right (`places_are_decoration`).
-/

namespace MarkdownTree

open Node Syntax

theorem Markdown.document_unplaced (preset : String) (fields : Fields) (position : Bool)
    (text : String) (stackLimit : Option Nat) :
    document preset fields false text stackLimit =
      unplaced <$> document preset fields position text stackLimit := by
  have mapped (x : Build Node) : (unplaced <$> x).mapError DocumentFault.tree =
      unplaced <$> x.mapError DocumentFault.tree := by
    cases x <;> rfl
  simp only [document, documentOfTokens_unplaced position, mapped, map_bind]
  refine bind_congr fun options => bind_congr fun read => ?_
  split <;> rfl

namespace Rendering

/-- A text is rendered as if places were not noted. -/
theorem render_unplaced {overrides : Check Overrides} (settings : Settings) (options : Fields)
    (text : String) (static : ∀ accepted, overrides.toExcept = .ok accepted → accepted.Static)
    (position : Option Bool) :
    render settings position options overrides text =
      render settings (some false) options overrides text := by
  have unplaced := Markdown.document_unplaced settings.parserConfig options
    (position.getD settings.position) text usualStackLimit
  rw [render, render, Option.getD_some, unplaced]
  cases Markdown.document settings.parserConfig options (position.getD settings.position) text with
  | error fault => rfl
  | ok n =>
    cases accepted : overrides.toExcept with
    | error reasons => rfl
    | ok overrides =>
      have bare : n.unplaced.bare = n.bare := bare_of_eq unplaced_eq_mapChildren n
      have same := renderTree_of_bare settings usualStackLimit (static overrides accepted) bare
      simp only [Functor.map, Except.map, same]

/-- Places are decoration. With and without them a document is built alike, or fails with the same
fault, and without them none of its nodes has one. So every text is rendered alike, unless an
override computes props. Where a node has a place, it is that of a tree of which the node was made:
the line after the first one, as lines are counted from one, and the last line. -/
theorem places_are_decoration :
    (∀ (ts : List Tree) (env : Environment),
      match buildDocument true ts env, buildDocument false ts env with
      | .error fault, .error fault' => fault = fault'
      | .ok doc, .ok doc' =>
        doc.unplaced = doc'.unplaced ∧ (∀ n ∈ doc'.preorder, n.position = none) ∧
          ∀ n ∈ doc.preorder, ∀ place, n.position = some place →
            ∃ t ∈ allTrees ts env, MadeOf true t n ∧
              ∃ first last, t.lines = some (first, last) ∧
                place = [("start", .object [("line", .int (first + 1))]),
                  ("end", .object [("line", .int last)])]
      | _, _ => False) ∧
    ∀ (settings : Settings) (options : Fields) (overrides : Check Overrides) (text : String),
      (∀ accepted, overrides.toExcept = .ok accepted → accepted.Static) →
        ∀ position position' : Option Bool,
          render settings position options overrides text =
            render settings position' options overrides text := by
  refine ⟨fun ts env => ?_, fun settings options overrides text static position position' => ?_⟩
  · have same := buildDocument_unplaced true ts env
    cases built : buildDocument true ts env with
    | error fault =>
      rw [same, built]
      rfl
    | ok doc =>
      have built' : buildDocument false ts env = .ok doc.unplaced := by
        rw [same, built]
        rfl
      have fixed := buildDocument_unplaced false ts env
      rw [built'] at fixed ⊢
      refine ⟨Except.ok.inj fixed, fun n => position_of_mem_preorder_unplaced, ?_⟩
      intro n hn place placed
      obtain ⟨_, unplaced | ⟨t, ht, made, source⟩⟩ := allSourced_of_document built n hn
      · exact absurd (placed.symm.trans unplaced) nofun
      · refine ⟨t, ht, made, ?_⟩
        rw [placed] at source
        cases lines : t.lines with
        | none =>
          rw [lines] at source
          cases source
        | some both =>
          rw [lines] at source
          exact ⟨both.1, both.2, rfl, Option.some.inj source⟩
  · rw [render_unplaced settings options text static position,
      render_unplaced settings options text static position']

/-- A task and a table with their lines. -/
def placedTask : List Tree :=
  let around (kind : String) (first last : Int) (children : List Tree) : Tree :=
    { kind, lines := some (first, last), children }
  let text (s : String) : Tree := { kind := "text", content := some s }
  [around "list_item" 0 2 [
      around "paragraph" 0 1 [around "inline" 0 1 [text "[x] ", text "done"]],
      around "hr" 1 2 []],
    around "table" 3 6 [
      around "thead" 3 4 [around "tr" 3 4 [around "th" 3 4 [text "head"]]],
      around "tbody" 5 6 [around "tr" 5 6 [around "td" 5 6 [text "cell"]]]]]

/-- The document of a task and a table, with places or without. -/
def placedTaskDocument (position : Bool) : Node :=
  let around (kind : String) (first last : Int) (children : List Node) : Node :=
    { kind, children := some children, position := placeOf position (some (first, last)) }
  .branch "root" [
    { around "listItem" 0 2 [
        around "paragraph" 0 1 [.leaf "text" "done"],
        { kind := "horizontalRule", position := placeOf position (some (1, 2)) }] with
      checked := some true },
    { around "table" 3 6 [
        around "tableHeader" 3 4 [around "tableCell" 3 4 [.leaf "text" "head"]],
        around "tableRow" 5 6 [around "tableCell" 5 6 [.leaf "text" "cell"]]] with
      align := some (.columns [none]) }]

/-- Items of lists are divisions. -/
def dividedItems : Overrides := [("listItem", { component := some (.name "div") })]

theorem placedTask_decoration :
    buildDocument true placedTask {} = .ok (placedTaskDocument true) ∧
      buildDocument false placedTask {} = .ok (placedTaskDocument false) ∧
      (placedTaskDocument true).unplaced = (placedTaskDocument false).unplaced ∧
      (∀ n ∈ (placedTaskDocument false).preorder, n.position = none) ∧
      dividedItems.Static ∧
      render {} (some true) [] (.accept dividedItems) "- [x] done" =
        render {} (some false) [] (.accept dividedItems) "- [x] done" := by
  have placed : buildDocument true placedTask {} = .ok (placedTaskDocument true) := by cbv
  have plain : buildDocument false placedTask {} = .ok (placedTaskDocument false) := by cbv
  have static : dividedItems.Static := by
    intro kind o own
    obtain rfl : o = { component := some (.name "div") } := by
      simpa using congrArg Prod.snd (List.mem_singleton.1 (Entries.mem_of_get? own))
    rfl
  obtain ⟨documents, renders⟩ := places_are_decoration
  have both := documents placedTask {}
  rw [placed, plain] at both
  refine ⟨placed, plain, both.1, both.2.1, static, ?_⟩
  exact renders {} [] (.accept dividedItems) _ (fun _ same => Except.ok.inj same ▸ static) _ _

end Rendering

end MarkdownTree
