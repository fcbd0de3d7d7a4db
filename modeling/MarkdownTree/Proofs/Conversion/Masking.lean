import MarkdownTree.Proofs.Conversion.Elements
import MarkdownTree.Proofs.Node.Masking
import MarkdownTree.Proofs.References
import MarkdownTree.Rendering

/-!
# Masked trees render alike

A definition leaves no trace in the conversion of the nodes around it, and no decoration is looked
at. So a node converts like the masked node (`Masking.convert`), and a document is rendered like
every document that has the same mask and whose definitions lead to the same targets
(`renderTree_of_masked`).

Overrides that compute props are left out: they see the whole node, its decoration included.
-/

namespace MarkdownTree

/-- No override computes props. -/
def Overrides.Static (overrides : Overrides) : Prop :=
  ∀ kind o, Entries.get? overrides kind = some o → o.dynamicProps = none

namespace Conversion

variable {c : Context} {frames : Nat} {n : Node} {key : String}
  {children : Conversion (List Markup)}

/-- Conversions do not depend on the order in which definitions were found. -/
theorem comparison_of_get? (definitions : Entries (Option String) Definition)
    (same : ∀ id, Entries.get? definitions id = Entries.get? c.definitions id) :
    Comparison c { c with definitions } fun m m' => m' = m where
  overrides_eq := rfl
  pure _ := rfl
  bind first second := by rw [first, funext second]
  call _ := rfl
  within h := by rw [h]
  resolve n := by
    unfold resolve
    rw [same]
  dynamicProps _ _ _ := rfl

/-- A definition gives nothing, whatever it holds. -/
theorem render_of_definition (h : n.kind = "definition") :
    render c frames n key children = (do
      call c (frames + 1)
      call c (frames + 1 + 1)
      return none) := by
  have plain : n.handling = .generic := by
    rw [Node.handling, h]
    rfl
  have hidden : n.tag? c.overrides = none :=
    Node.tag?_eq_none.2 (by simp [Node.isUnrendered, h])
  rw [render, plain]
  simp only [generic, hidden]

theorem convertEach_map {f : Node → Node} {l : List Node}
    (each : ∀ key, ∀ d ∈ l, convert c frames (f d) key = convert c frames d key) :
    convertEach c frames (l.map f) = convertEach c frames l := by
  have from_ (i : Nat) :
      collectEach (fun i d => convert c frames d (toString i)) i (l.map f) =
        collectEach (fun i d => convert c frames d (toString i)) i l := by
    induction l generalizing i with
    | nil => rfl
    | cons d l ih =>
      rw [List.map_cons, collectEach, collectEach, each (toString i) d (by simp),
        ih fun key d' member => each key d' (by simp [member])]
  exact from_ 0

/-- Content is the value of a node or comes from its children, of which it is only asked whether
one is a text, and which. -/
theorem content_map {n' : Node} {f : Node → Node} (value : n'.value = n.value)
    (kids : n'.childList = n.childList.map f) (text : ∀ d, (f d).isText = d.isText)
    (valueOfText : ∀ d : Node, d.isText = true → (f d).value = d.value) :
    content n' children = content n children := by
  unfold content
  rw [value, kids]
  cases n.value with
  | some _ => rfl
  | none =>
    rcases n.childList with _ | ⟨d, _ | ⟨d', ds⟩⟩
    · rfl
    · simp only [List.map_cons, List.map_nil, text]
      split
      · next isText => rw [valueOfText d isText]
      · rfl
    · rfl

/-! ### Nodes with other children and another decoration

Without computed props, neither counts for the props of a node. -/

section redone

variable (static : c.overrides.Static) (d : Node.Decoration) (cs : Option (List Node))

include static

theorem propsOf_redone : propsOf c (n.redone d cs) key = propsOf c n key := by
  have computed : computedProps c (n.redone d cs) = computedProps c n := rfl
  have kind : (n.redone d cs).kind = n.kind := rfl
  unfold propsOf
  rw [computed, kind]
  congr 1
  funext props
  cases own : Entries.get? c.overrides n.kind with
  | none => rfl
  | some o =>
    have none : o.dynamicProps = none := static _ _ own
    simp only [dynamicProps, none]

theorem code_redone : code c (n.redone d cs) key = code c n key := by
  unfold code
  rw [propsOf_redone static]
  rfl

theorem rawHtml_redone : rawHtml c (n.redone d cs) key = rawHtml c n key := by
  unfold rawHtml
  rw [propsOf_redone static]
  rfl

theorem task_redone (done : Bool) :
    task c (n.redone d cs) key done children = task c n key done children := by
  unfold task
  rw [propsOf_redone static]
  rfl

theorem generic_redone {children' : Conversion (List Markup)}
    (same : content (n.redone d cs) children' = content n children) :
    generic c frames (n.redone d cs) key children' = generic c frames n key children := by
  have tag : (n.redone d cs).tag? c.overrides = n.tag? c.overrides := rfl
  unfold generic
  rw [same, propsOf_redone static, tag]

end redone

end Conversion

namespace Node

theorem isLeafDefinition_rewritten {n : Node} (h : n.isLeafDefinition = false) :
    n.rewritten.isLeafDefinition = false := by
  by_cases kind : n.kind = "definition"
  · have plain : n.handling = .generic := by
      rw [Node.handling, kind]
      rfl
    rwa [Node.rewritten_of_generic plain]
  · exact isLeafDefinition_of_kind (by rwa [n.kind_rewritten])

theorem kind_of_mem_shownFootnotes {n note : Node} (h : note ∈ n.shownFootnotes) :
    note.kind = "footnoteDefinition" := by
  have there : note ∈ n.footnoteNodes := Entries.mem_of_mem_lastOfEach h
  simpa using (List.mem_filter.1 there).2

namespace Masking

open Conversion

variable {c : Context} {frames : Nat} {n : Node} {key : String}
  {children : Conversion (List Markup)}
variable {redecorate : Decoration → Decoration} {f : Node → Node} (mask : Masking redecorate f)

include mask

theorem value (h : n.isLeafDefinition = false) : (f n).value = n.value := by
  rw [mask.eq h]
  rfl

theorem identifier (h : n.isLeafDefinition = false) : (f n).identifier = n.identifier := by
  rw [mask.eq h]
  rfl

theorem value_of_isText (h : n.isText = true) : (f n).value = n.value := by
  apply mask.value
  apply isLeafDefinition_of_kind
  intro kind
  simp [Node.isText, kind] at h

/-- A masked definition is no text, so it is an only child that is rendered as nothing. -/
theorem content (h : n.isLeafDefinition = false) :
    Conversion.content (f n) children = Conversion.content n children :=
  content_map (mask.value h) (mask.childList n) mask.isText fun _ => mask.value_of_isText

theorem generic (static : c.overrides.Static) (h : n.isLeafDefinition = false) :
    Conversion.generic c frames (f n) key children =
      Conversion.generic c frames n key children := by
  have same : Conversion.content (f n) children = Conversion.content n children := mask.content h
  rw [mask.redone h] at same ⊢
  exact generic_redone static _ _ same

theorem callsOfRewriting (n : Node) :
    Conversion.callsOfRewriting (f n) = Conversion.callsOfRewriting n := by
  have depths : (n.childList.map f).map Node.groupingDepth =
      n.childList.map Node.groupingDepth := by
    rw [List.map_map]
    exact List.map_congr_left fun d _ => mask.groupingDepth d
  rw [Conversion.callsOfRewriting, Conversion.callsOfRewriting, mask.handling, mask.childList,
    depths]

/-- One case for each way of rendering. -/
theorem render (static : c.overrides.Static) :
    Conversion.render c frames (f n) key children =
      Conversion.render c frames n key children := by
  cases h : n.isLeafDefinition with
  | true =>
    have kind := (isLeafDefinition_iff.1 h).1
    rw [render_of_definition kind, render_of_definition ((mask.kind n).trans kind)]
  | false =>
    have own := mask.redone h
    have called {m m' : Conversion (Option Markup)} (frames : Nat) (same : m = m') :
        (call c frames >>= fun _ => m) = call c frames >>= fun _ => m' := by rw [same]
    rw [Conversion.render, Conversion.render, mask.handling, mask.callsOfRewriting, mask.rewritten]
    apply called
    cases n.handling with
    | generic => exact mask.generic static h
    | code => exact called _ (by rw [own, code_redone static])
    | html => exact called _ (by rw [own, rawHtml_redone static])
    | listItem =>
      apply called
      have checked : (f n).checked = n.checked := by
        rw [own]
        rfl
      rw [checked]
      cases n.checked with
      | none => exact mask.generic static h
      | some done =>
        rw [own]
        exact task_redone static _ _ done
    | _ => exact called _ (mask.generic static (isLeafDefinition_rewritten h))

/-- A node converts like the masked node. By induction on the weight, as the children of a
rewritten node weigh less than the node. -/
theorem convert (static : c.overrides.Static) (frames : Nat) (n : Node) (key : String) :
    Conversion.convert c frames (f n) key = Conversion.convert c frames n key := by
  induction hw : n.weight using Nat.strongRecOn generalizing frames n key with
  | ind w ih =>
    have calls : callsBetween (f n) = callsBetween n := by
      rw [callsBetween, callsBetween, mask.handling]
    have below (frames : Nat) : convertEach c frames (f n).rewritten.childList =
        convertEach c frames n.rewritten.childList := by
      rw [mask.rewritten, mask.childList]
      apply convertEach_map
      intro key d member
      exact ih d.weight (hw ▸ Node.weight_lt_of_mem_rewritten member) frames d key rfl
    rw [convert_eq, convert_eq, mask.isText, calls, below, mask.render static]
    cases text : n.isText with
    | true => rw [mask.value_of_isText text]
    | false => rfl

/-! ### Definitions and footnotes -/

theorem definitionNodes (n : Node) : (f n).definitionNodes = n.definitionNodes.map f := by
  rw [Node.definitionNodes, Node.definitionNodes, mask.preorder, List.filter_map]
  simp [Function.comp_def, mask.kind]

theorem footnoteNodes (n : Node) : (f n).footnoteNodes = n.footnoteNodes.map f := by
  rw [Node.footnoteNodes, Node.footnoteNodes, mask.preorder, List.filter_map]
  simp [Function.comp_def, mask.kind]

theorem shownFootnotes (n : Node) : (f n).shownFootnotes = n.shownFootnotes.map f := by
  rw [Node.shownFootnotes, mask.footnoteNodes]
  apply Entries.lastOfEach_map_of_key
  intro note member
  have kind : note.kind = "footnoteDefinition" := by simpa using (List.mem_filter.1 member).2
  exact mask.identifier (isLeafDefinition_of_kind (by simp [kind]))

theorem labelled (h : n.kind = "footnoteDefinition") :
    f (Gathered.labelled n) = Gathered.labelled (f n) := by
  have other : n.kind ≠ "definition" := by simp [h]
  have identifier := mask.identifier (isLeafDefinition_of_kind other)
  rw [Gathered.labelled, Gathered.labelled, mask.childList]
  rcases n.childList with _ | ⟨p, _ | ⟨p', ps⟩⟩
  · rfl
  · simp only [List.map_cons, List.map_nil, mask.kind]
    split
    · next paragraph =>
      have plain : p.kind ≠ "definition" := by simp [paragraph]
      rw [mask.withChildren_of_kind other, List.map_singleton,
        mask.withChildren_of_kind plain, List.map_cons, mask.childList, identifier,
        mask.plain (n := { kind := "textNode", value := _ })
          (show "textNode" ≠ "definition" by decide) rfl]
      rfl
    · rfl
  · rfl

theorem renderFootnote (static : c.overrides.Static) (h : n.isLeafDefinition = false) :
    References.renderFootnote c (f n) = References.renderFootnote c n := by
  have body : References.footnoteBody c (f n) = References.footnoteBody c n := by
    rw [References.footnoteBody, References.footnoteBody, mask.value h, mask.childList,
      convertEach_map fun key d _ => mask.convert static 0 d key]
  rw [References.renderFootnote, References.renderFootnote, body, mask.identifier h]

theorem renderFootnotes (static : c.overrides.Static) {notes : List Node}
    (h : ∀ note ∈ notes, note.isLeafDefinition = false) :
    References.renderFootnotes c (notes.map f) = References.renderFootnotes c notes := by
  induction notes with
  | nil => rfl
  | cons note notes ih =>
    rw [List.forall_mem_cons] at h
    rw [List.map_cons, References.renderFootnotes, References.renderFootnotes,
      mask.renderFootnote static h.1, ih h.2]

/-- The footnotes of a masked tree are rendered like those of the tree. -/
theorem renderShown (static : c.overrides.Static) (n : Node) :
    References.renderFootnotes c ((f n).shownFootnotes.map Gathered.labelled) =
      References.renderFootnotes c (n.shownFootnotes.map Gathered.labelled) := by
  have labelled : (f n).shownFootnotes.map Gathered.labelled =
      (n.shownFootnotes.map Gathered.labelled).map f := by
    rw [mask.shownFootnotes, List.map_map, List.map_map]
    exact List.map_congr_left fun note member =>
      (mask.labelled (kind_of_mem_shownFootnotes member)).symm
  rw [labelled]
  apply mask.renderFootnotes static
  intro m member
  obtain ⟨note, shown, rfl⟩ := List.mem_map.1 member
  apply isLeafDefinition_of_kind
  rw [Gathered.kind_labelled, kind_of_mem_shownFootnotes shown]
  decide

end Masking

end Node

namespace Rendering

open Conversion

variable {n n' : Node} {overrides : Overrides} {f : Node → Node}
variable {redecorate : Node.Decoration → Node.Decoration}

/-- Trees that look the same with a mask and have the same table of definitions are rendered
alike. -/
theorem renderTree_of_masked (settings : Settings) (stackLimit : Option Nat)
    (mask : Node.Masking redecorate f) (static : overrides.Static) (masked : f n' = f n)
    (same : ∀ id, Entries.get? (Gathered.ofTree n').definitions id =
      Entries.get? (Gathered.ofTree n).definitions id) :
    renderTree n' overrides settings stackLimit = renderTree n overrides settings stackLimit := by
  let c := References.contextFor n overrides settings stackLimit
  let c' := References.contextFor n' overrides settings stackLimit
  have alike : Comparison c c' fun m m' => m' = m :=
    comparison_of_get? (Gathered.ofTree n').definitions same
  have notes : References.renderFootnotes c' (n'.shownFootnotes.map Gathered.labelled) =
      References.renderFootnotes c (n.shownFootnotes.map Gathered.labelled) := by
    rw [alike.renderFootnotes, ← mask.renderShown (c := c) static n', masked,
      mask.renderShown (c := c) static n]
  have root : convertNode c' n' "0" = convertNode c n "0" := by
    rw [convertNode, alike.convert, ← mask.convert (c := c) static, masked,
      mask.convert (c := c) static, convertNode]
  rw [References.renderTree_eq, References.renderTree_eq, notes, root]

end Rendering

end MarkdownTree
