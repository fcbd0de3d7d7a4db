import MarkdownTree.Proofs.Conversion.Masking
import MarkdownTree.Proofs.Node.Definitions

/-!
# Where definitions stand

A document is rendered the same wherever its definitions stand, as long as the last definition of
every identifier stays the same. Two facts make this so. A definition without children leaves no
trace in the conversion of the nodes around it, so rearranged trees have the same mask
(`Node.masking_blanked`). And references look definitions up, so it is enough that the tables of
both trees hold the same under every identifier, in whatever order they were filled.
-/

namespace MarkdownTree

namespace Node

/-! ### The definitions of rearranged trees -/

/-- What a definition adds to the table. -/
def entry (d : Node) : Option String × Definition := (d.identifier, d.target)

/-- What the definitions with children add to the table. -/
def branchEntries (n : Node) : List (Option String × Definition) :=
  (n.definitionNodes.filter fun d => !d.isLeafDefinition).map entry

theorem branchEntries_blanked (n : Node) : n.blanked.branchEntries = n.branchEntries := by
  rw [branchEntries, branchEntries, masking_blanked.definitionNodes, List.filter_map, List.map_map]
  simp only [Function.comp_def, masking_blanked.isLeafDefinition]
  refine List.map_congr_left fun d member => ?_
  have branch : d.isLeafDefinition = false := by simpa using (List.mem_filter.1 member).2
  rw [blanked_of_not_leaf branch]
  rfl

/-- The table is filled by the definitions without children and by the others. -/
theorem entries_perm (n : Node) :
    (n.definitionNodes.map entry).Perm (n.leafDefinitions.map entry ++ n.branchEntries) := by
  have leaves : n.definitionNodes.filter isLeafDefinition = n.leafDefinitions := by
    rw [definitionNodes, leafDefinitions, List.filter_filter]
    refine List.filter_congr fun d _ => ?_
    cases leaf : d.isLeafDefinition with
    | true => simp [(isLeafDefinition_iff.1 leaf).1]
    | false => rfl
  have split := (List.filter_append_perm isLeafDefinition n.definitionNodes).map entry
  rw [List.map_append, leaves] at split
  exact split.symm

theorem Rearranged.entries_perm {n n' : Node} (moved : n.Rearranged n') :
    (n'.definitionNodes.map entry).Perm (n.definitionNodes.map entry) := by
  have others : n'.branchEntries = n.branchEntries := by
    rw [← branchEntries_blanked, moved.places, branchEntries_blanked]
  have leaves := moved.definitions.map entry
  refine n'.entries_perm.trans (.trans ?_ n.entries_perm.symm)
  rw [others]
  exact leaves.append_right _

/-- Where no identifier is repeated, every identifier keeps its definition. -/
theorem Rearranged.target_eq {n n' : Node} (moved : n.Rearranged n')
    (distinct : (n.definitionNodes.map identifier).Nodup) (id : Option String) :
    (Entries.last? identifier n'.definitionNodes id).map target =
      (Entries.last? identifier n.definitionNodes id).map target := by
  have keys : ((n.definitionNodes.map entry).map Prod.fst).Nodup := by
    rw [List.map_map]
    exact distinct
  have found (l : List Node) : (Entries.last? identifier l id).map target =
      (Entries.last? Prod.fst (l.map entry) id).map Prod.snd := by
    rw [show l.map entry = l.map fun d => (d.identifier, d.target) from rfl, Entries.last?_map,
      Option.map_map]
    rfl
  rw [found, found, Entries.last?_perm moved.entries_perm keys id]

end Node

namespace Rendering

open Conversion

variable {n n' : Node} {overrides : Overrides} (settings : Settings) (stackLimit : Option Nat)

/-- Trees with the same blanks and the same table of definitions are rendered alike. -/
theorem renderTree_of_blanked (static : overrides.Static) (places : n'.blanked = n.blanked)
    (same : ∀ id, Entries.get? (Gathered.ofTree n').definitions id =
      Entries.get? (Gathered.ofTree n).definitions id) :
    renderTree n' overrides settings stackLimit = renderTree n overrides settings stackLimit :=
  renderTree_of_masked settings stackLimit Node.masking_blanked static places same

/-- Documents whose definitions without children were rearranged have the same outcome and the same
warnings, if every identifier keeps its last definition; this is so for every arrangement where no
identifier is repeated. -/
theorem rearranged_renders_alike (moved : n.Rearranged n') (static : overrides.Static) :
    ((∀ id, (Entries.last? Node.identifier n'.definitionNodes id).map Node.target =
        (Entries.last? Node.identifier n.definitionNodes id).map Node.target) →
      start (renderTree n' overrides settings stackLimit) =
        start (renderTree n overrides settings stackLimit)) ∧
      ((n.definitionNodes.map Node.identifier).Nodup →
        start (renderTree n' overrides settings stackLimit) =
          start (renderTree n overrides settings stackLimit)) := by
  have alike (same : ∀ id, (Entries.last? Node.identifier n'.definitionNodes id).map Node.target =
      (Entries.last? Node.identifier n.definitionNodes id).map Node.target) :
      start (renderTree n' overrides settings stackLimit) =
        start (renderTree n overrides settings stackLimit) := by
    rw [renderTree_of_blanked settings stackLimit static moved.places fun id => ?_]
    rw [Gathered.get?_definitions, Gathered.get?_definitions, same]
  exact ⟨alike, fun distinct => alike (moved.target_eq distinct)⟩

/-- A definition of an identifier. -/
def definitionOf (e : String × String) : Node :=
  { kind := "definition", identifier := some e.1, link := some e.2 }

/-- A document with references to `a` and `b` and with three places for definitions: before all
references, in a row of a table, and below code in a footnote. -/
def placing (first inRow inFootnote : Node) : Node :=
  let reference (id : String) : Node :=
    { Node.branch "linkReference" [.leaf "text" id] with identifier := some id }
  .branch "root" [first,
    .branch "table" [
      .branch "tableRow" [inRow, .branch "tableCell" [reference "a", reference "b"]]],
    { Node.branch "footnoteDefinition"
        [.branch "paragraph" [reference "a"], .branch "code" [inFootnote]] with
      identifier := some "n" }]

/-- The document with the given definitions. -/
def placed (first inRow inFootnote : String × String) : Node :=
  placing (definitionOf first) (definitionOf inRow) (definitionOf inFootnote)

theorem definitionNodes_placed (a b d : String × String) :
    (placed a b d).definitionNodes = [definitionOf a, definitionOf b, definitionOf d] := by
  simp [placed, placing, Node.definitionNodes, Node.preorder_eq, Node.childList, Node.branch,
    Node.leaf, definitionOf]

theorem rearranged_placed {a b d a' b' d' : String × String}
    (perm : [a', b', d'].Perm [a, b, d]) : (placed a b d).Rearranged (placed a' b' d') := by
  have places (a b d : String × String) :
      (placed a b d).blanked = placing .blank .blank .blank := by
    have blank (e : String × String) : (definitionOf e).blanked = .blank := Node.blanked_of_leaf rfl
    simp [placed, placing, Node.blanked_of_not_leaf, Node.isLeafDefinition, blank, Node.branch,
      Node.leaf]
  have leaves (a b d : String × String) :
      (placed a b d).leafDefinitions = [a, b, d].map definitionOf := by
    simp [placed, placing, Node.leafDefinitions, Node.isLeafDefinition, Node.preorder_eq,
      Node.childList, Node.branch, Node.leaf, definitionOf]
  refine ⟨by rw [places, places], ?_⟩
  rw [leaves, leaves]
  exact perm.map definitionOf

/-- References have a class. -/
def classedReferences : Overrides :=
  [("linkReference", { props := [("class", .string "reference")] })]

theorem static_classedReferences : classedReferences.Static := by
  intro kind o own
  simp only [classedReferences, Entries.get?] at own
  split at own
  · cases own
    rfl
  · cases own

/-- The first of two definitions of `a` can move, and where no identifier is repeated all
definitions can. -/
theorem placed_renders_alike :
    let first := placed ("a", "/old") ("b", "/b") ("a", "/new")
    let second := placed ("b", "/b") ("a", "/old") ("a", "/new")
    let third := placed ("a", "/a") ("b", "/b") ("d", "/d")
    let fourth := placed ("d", "/d") ("a", "/a") ("b", "/b")
    classedReferences.Static ∧ first.Rearranged second ∧
      (∀ id, (Entries.last? Node.identifier second.definitionNodes id).map Node.target =
        (Entries.last? Node.identifier first.definitionNodes id).map Node.target) ∧
      start (renderTree second classedReferences {}) =
        start (renderTree first classedReferences {}) ∧
      third.Rearranged fourth ∧ (third.definitionNodes.map Node.identifier).Nodup ∧
      start (renderTree fourth classedReferences {}) =
        start (renderTree third classedReferences {}) := by
  intro first second third fourth
  have swapped : first.Rearranged second := rearranged_placed (.swap _ _ _)
  have turned : third.Rearranged fourth := rearranged_placed (by decide)
  have kept (id : Option String) :
      (Entries.last? Node.identifier second.definitionNodes id).map Node.target =
        (Entries.last? Node.identifier first.definitionNodes id).map Node.target := by
    rw [definitionNodes_placed, definitionNodes_placed]
    by_cases a : some "a" = id <;> by_cases b : some "b" = id <;>
      simp [Entries.last?, definitionOf, a, b]
  have distinct : (third.definitionNodes.map Node.identifier).Nodup := by
    rw [definitionNodes_placed]
    decide
  have alike := rearranged_renders_alike {} usualStackLimit swapped static_classedReferences
  have alike' := rearranged_renders_alike {} usualStackLimit turned static_classedReferences
  exact ⟨static_classedReferences, swapped, kept, alike.1 kept, turned, distinct, alike'.2 distinct⟩

end Rendering

end MarkdownTree
