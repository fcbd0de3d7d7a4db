import MarkdownTree.Proofs.Conversion.Masking

/-!
# Decoration is not rendered

What a node carries besides its kind, its children and the fields that become props has no effect:
the contents of a front matter block, its place in the source and fields of unknown names. So trees
that are the same without it are rendered alike, unless an override computes props.
-/

namespace MarkdownTree

namespace Node

/-- The tree without decoration. -/
def bare (n : Node) : Node :=
  { n with
    children := n.children.map fun _ => n.childList.attach.map fun c => bare c.1
    data := none, position := none, extras := [] }
termination_by sizeOf n
decreasing_by exact sizeOf_lt_of_mem c.2

theorem bare_eq (n : Node) : n.bare = (n.decorated {}).mapChildren bare := by
  rw [bare, map_children_attach]
  rfl

section

variable {redecorate : Decoration → Decoration} {f : Node → Node}
variable (eq : ∀ n, f n = (n.decorated (redecorate n.decoration)).mapChildren f)

include eq

/-- A map of trees that changes nothing but decorations. -/
theorem masking_of_eq (empty : redecorate {} = {}) : Masking redecorate f where
  redecorate_empty := empty
  leaf h := by
    rw [isLeafDefinition_iff] at h ⊢
    rw [eq, childList_mapChildren]
    exact ⟨h.1, List.map_eq_nil_iff.2 h.2⟩
  eq _ := eq _

theorem bare_of_eq (n : Node) : (f n).bare = n.bare := by
  induction n using induct with
  | step n ih =>
    have children : (n.children.map (List.map f)).map (List.map bare) =
        n.children.map (List.map bare) := by
      cases present : n.children with
      | none => rfl
      | some cs =>
        have same : n.childList = cs := by rw [childList, present, Option.getD_some]
        have each : cs.map (bare ∘ f) = cs.map bare := List.map_congr_left (same ▸ ih)
        rw [Option.map_some, Option.map_some, Option.map_some, List.map_map, each]
    rw [bare_eq, bare_eq n, eq]
    exact congrArg (fun cs => ({ n with children := cs } : Node).decorated {}) children

end

theorem masking_bare : Masking (fun _ => {}) bare := masking_of_eq bare_eq rfl

end Node

namespace Rendering

/-- Trees that are the same without decoration are rendered alike. -/
theorem renderTree_of_bare {n n' : Node} {overrides : Overrides} (settings : Settings)
    (stackLimit : Option Nat) (static : overrides.Static) (same : n'.bare = n.bare) :
    renderTree n' overrides settings stackLimit = renderTree n overrides settings stackLimit := by
  have mask := Node.masking_bare
  have targets (n : Node) :
      (Gathered.ofTree n.bare).definitions = (Gathered.ofTree n).definitions := by
    have entry (d : Node) : (d.bare.identifier, d.bare.target) = (d.identifier, d.target) := by
      rw [Node.bare_eq]
      rfl
    simp only [Gathered.ofTree_eq, ← Entries.ofList_map, mask.definitionNodes, List.map_map,
      Function.comp_def, entry]
  apply renderTree_of_masked settings stackLimit mask static same
  intro id
  rw [← targets n', same, targets n]

end Rendering

end MarkdownTree
