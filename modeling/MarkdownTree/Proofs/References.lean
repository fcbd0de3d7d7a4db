import MarkdownTree.Conversion.Session
import MarkdownTree.Proofs.Conversion.Comparison
import MarkdownTree.Proofs.Entries
import MarkdownTree.Proofs.Node.Kinds
import MarkdownTree.Rendering

/-!
# Gathering is exact

The definitions and footnotes of a document are those of all nodes of its tree, at any depth and
also where the conversion never goes. A later node replaces an earlier one with the same
identifier and keeps its place. `Gathered.ofTree_eq` says so of what is gathered, with the
recursive order of the nodes in place of the stack that visits them.

Footnotes are rendered when all definitions are known. `collect_exact` gives each of them the
body that a new converter makes with the complete definitions; nothing is carried over from one
footnote to the next, because every conversion is framed.
-/

namespace MarkdownTree

namespace Node

/-- The definitions of a tree. -/
def definitionNodes (n : Node) : List Node := n.preorder.filter (·.kind = "definition")

/-- The footnotes of a tree. -/
def footnoteNodes (n : Node) : List Node := n.preorder.filter (·.kind = "footnoteDefinition")

/-- The footnotes that a document shows: the last one of each identifier. -/
def shownFootnotes (n : Node) : List Node := Entries.lastOfEach identifier n.footnoteNodes

/-- What references to a definition point at. -/
def target (n : Node) : Definition := ⟨n.title, n.link⟩

end Node

namespace Gathered

theorem add_definition (g : Gathered) {n : Node} (h : n.kind = "definition") :
    add g n = { g with definitions := Entries.set g.definitions n.identifier n.target } := by
  rw [add, if_pos h]
  rfl

theorem add_footnote (g : Gathered) {n : Node} (h : n.kind = "footnoteDefinition") :
    add g n = { g with footnotes := Entries.set g.footnotes n.identifier (labelled n) } := by
  rw [add, if_neg (by rw [h]; decide), if_pos h]

theorem add_other (g : Gathered) {n : Node} (hd : n.kind ≠ "definition")
    (hf : n.kind ≠ "footnoteDefinition") : add g n = g := by
  rw [add, if_neg hd, if_neg hf]

/-- Definitions and footnotes are set in two tables that do not meet. -/
theorem foldl_add (l : List Node) (g : Gathered) :
    l.foldl add g =
      { definitions := Entries.merge g.definitions
          ((l.filter (·.kind = "definition")).map fun n => (n.identifier, n.target))
        footnotes := Entries.merge g.footnotes
          ((l.filter (·.kind = "footnoteDefinition")).map fun n => (n.identifier, labelled n)) } := by
  induction l generalizing g with
  | nil => rfl
  | cons n l ih =>
      rw [List.foldl_cons, ih]
      by_cases hd : n.kind = "definition"
      · simp [add_definition g hd, hd]
      · by_cases hf : n.kind = "footnoteDefinition"
        · simp [add_footnote g hf, hf]
        · simp [add_other g hd hf, hd, hf]

theorem ofTree_eq (n : Node) :
    ofTree n =
      { definitions := (Entries.lastOfEach Node.identifier n.definitionNodes).map
          fun d => (d.identifier, d.target)
        footnotes := n.shownFootnotes.map fun f => (f.identifier, labelled f) } := by
  rw [ofTree, Node.walk_eq_preorder, foldl_add, Node.shownFootnotes, ← Entries.ofList_map,
    ← Entries.ofList_map]
  rfl

/-- Under an identifier stands what its last definition points at. -/
theorem get?_definitions (n : Node) (id : Option String) :
    Entries.get? (ofTree n).definitions id =
      (Entries.last? Node.identifier n.definitionNodes id).map Node.target := by
  rw [ofTree_eq, ← Entries.ofList_map, Entries.get?_ofList, Entries.last?_map, Option.map_map]
  rfl

theorem footnotes_ofTree (n : Node) :
    (ofTree n).footnotes.map Prod.snd = n.shownFootnotes.map labelled := by
  rw [ofTree_eq, List.map_map]
  rfl

/-- A footnote that is a single paragraph gets a label in front of it; others stay as they are. -/
theorem labelled_cases (n : Node) :
    labelled n = n ∨
      ∃ p, n.childList = [p] ∧ p.kind = "paragraph" ∧
        labelled n = n.withChildren [p.withChildren
          (.leaf "textNode" ("[" ++ n.identifier.getD "None" ++ "]: ") :: p.childList)] := by
  rw [labelled]
  split
  · next p single =>
    split
    · next paragraph => exact .inr ⟨p, single, paragraph, rfl⟩
    · exact .inl rfl
  · exact .inl rfl

theorem value_labelled (n : Node) : (labelled n).value = n.value := by
  rcases labelled_cases n with same | ⟨p, -, -, same⟩
  · rw [same]
  · rw [same, Node.value_withChildren]

theorem kind_labelled (n : Node) : (labelled n).kind = n.kind := by
  rcases labelled_cases n with same | ⟨p, -, -, same⟩
  · rw [same]
  · rw [same, Node.kind_withChildren]

theorem identifier_labelled (n : Node) : (labelled n).identifier = n.identifier := by
  rcases labelled_cases n with same | ⟨p, -, -, same⟩
  · rw [same]
  · rw [same]
    rfl

end Gathered

namespace Node

/-- Nothing is found in the label of a footnote. -/
theorem Gathers.subset_of_labelled {f : Node → List α} (gathers : Gathers f) {n c : Node}
    (h : c ∈ (Gathered.labelled n).childList) : f c ⊆ f n := by
  rcases Gathered.labelled_cases n with same | ⟨p, single, paragraph, same⟩
  · rw [same] at h
    exact gathers.subset_of_child h
  · rw [same, childList_withChildren, List.mem_singleton] at h
    have structural : p.kind ∈ structuralKinds := by simp [structuralKinds, paragraph]
    have label : f (.leaf "textNode" ("[" ++ n.identifier.getD "None" ++ "]: ")) = [] :=
      gathers.of_structural (show "textNode" ∈ structuralKinds by decide)
    rw [h, gathers.of_structural (n := p.withChildren _) structural, childList_withChildren,
      List.flatMap_cons, label, List.nil_append, ← gathers.of_structural structural]
    exact gathers.subset_of_child (single ▸ List.mem_singleton_self p)

end Node

namespace Rendering

theorem withFootnotes_element {settings : Settings} {ms : List Markup} {tag : Tag} {props : Fields}
    {body : List Markup} {m : Markup}
    (h : withFootnotes settings ms (some (.element tag props body)) = some m) :
    m = .element tag props body ∨ m = .element tag props (body ++ [footer settings ms]) := by
  simp only [withFootnotes] at h
  split at h
  · exact .inl (Option.some_inj.1 h).symm
  · exact .inr (Option.some_inj.1 h).symm

end Rendering

namespace References

open Conversion

theorem collect_eq (n : Node) (overrides : Overrides) (settings : Settings)
    (stackLimit : Option Nat) :
    collect n overrides settings stackLimit = (do
      let definitions := (Gathered.ofTree n).definitions
      let rendered ← renderFootnotes { definitions, overrides, settings, stackLimit }
        (n.shownFootnotes.map Gathered.labelled)
      return ⟨definitions, rendered⟩) := by
  rw [← Gathered.footnotes_ofTree]
  rfl

/-- What the nodes of a document are converted with: the definitions of its whole tree. -/
def contextFor (n : Node) (overrides : Overrides) (settings : Settings)
    (stackLimit : Option Nat) : Context :=
  { definitions := (Gathered.ofTree n).definitions, overrides, settings, stackLimit }

/-- Footnotes and tree are rendered one after the other, both with all definitions. -/
theorem renderTree_eq (n : Node) (overrides : Overrides) (settings : Settings)
    (stackLimit : Option Nat) :
    Rendering.renderTree n overrides settings stackLimit = (do
      let footnotes ← renderFootnotes (contextFor n overrides settings stackLimit)
        (n.shownFootnotes.map Gathered.labelled)
      let root ← convertNode (contextFor n overrides settings stackLimit) n "0"
      return Rendering.withFootnotes settings footnotes root) := by
  simp only [Rendering.renderTree, collect_eq, bind_assoc, pure_bind]
  rfl

/-- The footnotes are rendered one by one, each as at the start of a conversion. -/
theorem each_start_of_renderFootnotes {c : Context} {nodes : List Node} {ms : List Markup}
    {before : List Warning} {q : Progress} {i : Nat}
    (run : renderFootnotes c nodes ⟨0, before⟩ = (.ok ms, q)) :
    Each (fun _ n m => (start (renderFootnote c n)).1 = .ok m) i nodes ms := by
  induction nodes generalizing i ms before q with
  | nil =>
      cases run
      exact .nil
  | cons n nodes ih =>
      obtain ⟨m, p, first, rest⟩ := bind_eq_ok.1 run
      obtain ⟨ms', p', tail, last⟩ := bind_eq_ok.1 rest
      cases last
      rw [(Framed.renderFootnote c n).run_eq_start] at first
      obtain ⟨made, rfl⟩ := Prod.mk.inj first
      exact .cons made (ih tail)

/-- The element of a footnote: its identifier is key and `id`, and its body is the value or what a
new converter makes of the children of the labelled footnote. -/
def IsElementOf (c : Context) (f : Node) (m : Markup) : Prop :=
  ∃ body, m = .element (.name "div")
      [("key", .ofString? f.identifier), ("id", .ofString? f.identifier)] body ∧
    match f.value with
    | some value => body = [.text value]
    | none => (Converter.convertEach { context := c } (Gathered.labelled f).childList).1.1 = .ok body

theorem isElementOf_of_start {c : Context} {f : Node} {m : Markup}
    (run : (start (renderFootnote c (Gathered.labelled f))).1 = .ok m) : IsElementOf c f m := by
  obtain ⟨q, unpacked⟩ := start_fst_eq.1 run
  obtain ⟨body, p, made, result⟩ := bind_eq_ok.1 unpacked
  rw [Gathered.identifier_labelled] at result
  cases result
  refine ⟨body, rfl, ?_⟩
  rw [footnoteBody, Gathered.value_labelled] at made
  cases h : f.value with
  | some value =>
      rw [h] at made
      cases made
      rfl
  | none =>
      rw [h] at made
      exact congrArg Prod.fst made

/-- What is collected from a document: under every identifier the last definition of the whole
tree, and for every identifier of a footnote one element, made of its last footnote with the
complete definitions. Both stand in the order in which the identifiers first occur. -/
theorem collect_exact (n : Node) (overrides : Overrides) (settings : Settings)
    (stackLimit : Option Nat) (references : References)
    (run : (start (collect n overrides settings stackLimit)).1 = .ok references) :
    Entries.keys references.definitions =
        Entries.distinct (n.definitionNodes.map Node.identifier) ∧
      (∀ id, Entries.get? references.definitions id =
        (Entries.last? Node.identifier n.definitionNodes id).map Node.target) ∧
      n.shownFootnotes.map Node.identifier =
        Entries.distinct (n.footnoteNodes.map Node.identifier) ∧
      Each (fun _ => IsElementOf
        { definitions := references.definitions, overrides, settings, stackLimit })
        0 n.shownFootnotes references.footnotes := by
  rw [collect_eq] at run
  obtain ⟨q, unpacked⟩ := start_fst_eq.1 run
  obtain ⟨ms, p, rendered, result⟩ := bind_eq_ok.1 unpacked
  cases result
  have table : (Gathered.ofTree n).definitions =
      Entries.ofList (n.definitionNodes.map fun d => (d.identifier, d.target)) := by
    rw [Gathered.ofTree_eq, Entries.ofList_map]
  refine ⟨?_, ?_, Entries.map_lastOfEach _ _, ?_⟩
  · rw [table, Entries.keys_ofList, List.map_map]
    rfl
  · intro id
    rw [table, Entries.get?_ofList, Entries.last?_map, Option.map_map]
    rfl
  · refine (each_start_of_renderFootnotes rendered).of_map fun _ f m _ made => ?_
    exact isElementOf_of_start made

/-- A document with two definitions of `a`, one in a footnote, one of `b` below code, and a
footnote in a footnote that refers to `b`. -/
def scattered : Node :=
  let definition (id link : String) : Node :=
    { kind := "definition", identifier := some id, link := some link }
  let footnote (id : String) (children : List Node) : Node :=
    { Node.branch "footnoteDefinition" children with identifier := some id }
  let reference : Node := { Node.branch "linkReference" [] with identifier := some "b" }
  .branch "root" [
    definition "a" "/old",
    footnote "outer" [footnote "inner" [.branch "paragraph" [reference]], definition "a" "/new"],
    .branch "code" [definition "b" "/b"]]

theorem scattered_collected :
    ∃ references, (start (collect scattered [] { strictReferences := true })).1 = .ok references ∧
      Entries.keys references.definitions = [some "a", some "b"] ∧
      Entries.get? references.definitions (some "a") = some ⟨none, some "/new"⟩ ∧
      scattered.shownFootnotes.map Node.identifier = [some "outer", some "inner"] ∧
      Each (fun _ => IsElementOf
        { definitions := references.definitions, settings := { strictReferences := true } })
        0 scattered.shownFootnotes references.footnotes := by
  have ok : (start (collect scattered [] { strictReferences := true })).1.isOk = true := by
    decide +kernel
  obtain ⟨references, run⟩ := exists_of_isOk ok
  obtain ⟨keys, targets, shown, elements⟩ :=
    collect_exact scattered [] { strictReferences := true } usualStackLimit references run
  refine ⟨references, run, ?_, ?_, ?_, elements⟩
  · rw [keys]
    decide +kernel
  · rw [targets]
    decide +kernel
  · rw [shown]
    decide +kernel

end References

end MarkdownTree
