import MarkdownTree.Proofs.Node.Kinds
import MarkdownTree.Proofs.Syntax.Forms
import Mathlib.Data.List.Forall2

/-!
# The footnotes in what the builder makes of a tree

What a tree becomes has the nodes of its parts below it. `Made` keeps of this what the footnotes
need, and `made_of_build` reads it off the form of the node.

Joining texts, taking the box off a task and regrouping the cells of a table move nodes around, but
neither make nor lose a footnote or a reference to one (`SameNotes`). So the footnotes of what a
tree becomes are its own, one for each and in order (`forall₂_of_build`), by induction on the tree
along its parts.
-/

namespace MarkdownTree

namespace Syntax

open Node

variable {position : Bool} {t : Tree} {ts us : List Tree} {ns cs : List Node} {kind : String}

theorem ofKind_text {n : Node} (text : n.kind = "text") (closed : n.childList = [])
    (h : kind ≠ "text") : n.ofKind kind = [] := by
  rw [ofKind_of_ne (by rw [text]; exact h.symm), closed, List.flatMap_nil]

theorem ofKind_withValue {n : Node} (h : n.kind ≠ kind) (value : Option String) :
    ({ n with value } : Node).ofKind kind = n.ofKind kind := by
  rw [ofKind_of_ne h, ofKind_of_ne (n := { n with value }) h]
  rfl

/-- Taking the box off a task neither makes nor loses nodes of other kinds. -/
theorem ofKind_takeTask (text : kind ≠ "text") (paragraph : kind ≠ "paragraph") :
    (takeTask ns).2.flatMap (ofKind kind) = ns.flatMap (ofKind kind) := by
  unfold takeTask
  split
  · next p rest =>
    split
    · next t ts isParagraph children =>
      split
      · next done after isText _ =>
        have plain : p.kind ≠ kind := by rw [isParagraph]; exact paragraph.symm
        have withChildren (cs : List Node) :
            (p.withChildren cs).ofKind kind = cs.flatMap (ofKind kind) := ofKind_of_ne plain
        rw [List.flatMap_cons, List.flatMap_cons, withChildren, ofKind_of_ne plain, children,
          List.flatMap_cons, List.flatMap_cons,
          ofKind_withValue (by rw [isText]; exact text.symm)]
      · rfl
    · rfl
  · rfl

/-- The kinds of footnotes and of references to them. -/
def noteKinds : List String := ["footnoteDefinition", "footnoteReference"]

/-- Both lists hold the same footnotes and references to footnotes, in the same order. -/
def SameNotes (ns cs : List Node) : Prop :=
  ∀ kind ∈ noteKinds, ns.flatMap (ofKind kind) = cs.flatMap (ofKind kind)

/-- Neither joined texts nor the groups of a table are footnotes. -/
theorem additive_ofKind (note : kind ∈ noteKinds) : Additive (ofKind kind) where
  joined text closed text' closed' := by
    have other : kind ≠ "text" := by rintro rfl; exact absurd note (by decide)
    rw [ofKind_text text closed other, ofKind_text text' closed' other]
    exact ofKind_text text closed other
  around group _ := by
    refine ofKind_of_ne ?_
    rintro rfl
    have apart : ∀ kind ∈ groupKinds, kind ∉ noteKinds := by decide
    exact apart _ group note

namespace SameNotes

theorem joinTexts (closed : TextsClosed cs) : SameNotes (joinTexts cs) cs :=
  fun _ note => (additive_ofKind note).flatMap_joinTexts closed

theorem regroups (groups : Regroups ns cs) (closed : TextsClosed cs) : SameNotes ns cs :=
  fun _ note => (additive_ofKind note).flatMap_regroups groups closed

theorem takeTask (closed : TextsClosed cs) :
    SameNotes (takeTask (Syntax.joinTexts cs)).2 cs := by
  intro kind note
  rw [ofKind_takeTask (by rintro rfl; exact absurd note (by decide))
    (by rintro rfl; exact absurd note (by decide)), joinTexts closed kind note]

end SameNotes

/-- A footnote is made of a footnote, a reference of a reference, and neither of anything else. -/
def KindsAgree (t : Tree) (n : Node) : Prop :=
  (t.kind = "footnote_reference" → n.kind = "footnoteDefinition") ∧
    (t.kind = "footnote_ref" → n.kind = "footnoteReference") ∧
    (t.kind ∉ ["footnote_reference", "footnote_ref"] → t.kind ∉ noteKinds → n.kind ∉ noteKinds)

/-- How the nodes of a tree come from those of its parts. -/
inductive Made (t : Tree) (cs : List Node) : List Node → Prop
  | spliced (kind : t.kind = "inline") : Made t cs (joinTexts cs)
  | node {n : Node} (kinds : KindsAgree t n) (text : n.kind = "text" → n.childList = [])
      (below : TextsClosed cs → SameNotes n.childList cs) : Made t cs [n]

theorem kindsAgree_of_nodeKind {n : Node} (kind : n.kind = t.nodeKind) : KindsAgree t n := by
  have table : ∀ pair ∈ Tree.nodeKinds, pair.1 ∉ ["footnote_reference", "footnote_ref"] →
      pair.2 ∉ noteKinds := by decide
  rw [KindsAgree, kind, Tree.nodeKind]
  refine ⟨fun definition => by rw [definition]; rfl, fun reference => by rw [reference]; rfl,
    fun other known => ?_⟩
  cases found : Entries.get? Tree.nodeKinds t.kind with
  | some _ => exact table _ (Entries.mem_of_get? found) other
  | none => exact known

/-- A builder that succeeds has built the parts of the tree. -/
theorem made_of_build (h : build position t = .ok ns) :
    ∃ cs, buildEach position t.parts = .ok cs ∧ Made t cs ns := by
  obtain ⟨cs, each, formed⟩ := formed_of_build h
  refine ⟨cs, each, ?_⟩
  cases formed with
  | spliced inline => exact .spliced inline
  | node _ kind _ below =>
    refine .node (kindsAgree_of_nodeKind kind) (fun text => ?_) fun closed => ?_
    · exact below.childless_of_text (kind ▸ text) each
    · cases below with
      | joined _ _ children => exact children ▸ .joinTexts closed
      | regrouped _ groups => exact .regroups groups closed
      | task _ _ children => exact children ▸ .takeTask closed

/-! ### Whole trees -/

theorem textsClosed_of_build (h : build position t = .ok ns) : TextsClosed ns := by
  induction t using Tree.induct generalizing ns with
  | step t ih =>
    obtain ⟨cs, each, made⟩ := made_of_build h
    cases made with
    | spliced _ =>
      refine textsClosed_joinTexts (forall_of_buildEach ?_ each)
      exact fun u hu ns built => ih u (Tree.sizeOf_lt_of_mem_parts hu) built
    | node _ text _ => simpa [TextsClosed] using text

theorem closed_of_buildEach (h : buildEach position us = .ok cs) : TextsClosed cs :=
  forall_of_buildEach (fun _ _ _ built => textsClosed_of_build built) h

/-- The tree becomes the one node. -/
def Becomes (position : Bool) (t : Tree) (n : Node) : Prop := build position t = .ok [n]

/-- The kinds of footnotes and of references to them, in syntax trees and in documents. -/
def footnoteKinds : List (String × String) :=
  [("footnote_reference", "footnoteDefinition"), ("footnote_ref", "footnoteReference")]

theorem forall₂_of_buildEach {tree node : String}
    (each : ∀ u ∈ us, ∀ ns, build position u = .ok ns →
      List.Forall₂ (Becomes position) (u.read.filter (·.kind = tree)) (ns.flatMap (ofKind node)))
    (h : buildEach position us = .ok cs) :
    List.Forall₂ (Becomes position) ((us.flatMap Tree.read).filter (·.kind = tree))
      (cs.flatMap (ofKind node)) := by
  induction us generalizing cs with
  | nil =>
    rw [buildEach_nil.1 h]
    exact .nil
  | cons u us ih =>
    obtain ⟨as, bs, first, others, rfl⟩ := buildEach_cons.1 h
    rw [List.flatMap_cons, List.filter_append, List.flatMap_append]
    exact List.rel_append (each u List.mem_cons_self as first)
      (ih (fun v hv => each v (List.mem_cons_of_mem u hv)) others)

theorem mem_noteKinds {tree node : String} (pair : (tree, node) ∈ footnoteKinds) :
    tree ≠ "inline" ∧ node ∈ noteKinds := by
  simp only [footnoteKinds, List.mem_cons, List.not_mem_nil, or_false, Prod.mk.injEq] at pair
  rcases pair with ⟨rfl, rfl⟩ | ⟨rfl, rfl⟩ <;> decide

/-- If the kind of a tree is known, its node is a footnote or a reference if the tree is one. -/
theorem KindsAgree.kind_iff {tree node : String} {n : Node} (kinds : KindsAgree t n)
    (known : t.kind ∉ noteKinds) (pair : (tree, node) ∈ footnoteKinds) :
    n.kind = node ↔ t.kind = tree := by
  obtain ⟨definition, reference, other⟩ := kinds
  simp only [footnoteKinds, List.mem_cons, List.not_mem_nil, or_false, Prod.mk.injEq] at pair
  by_cases isDefinition : t.kind = "footnote_reference"
  · rcases pair with ⟨rfl, rfl⟩ | ⟨rfl, rfl⟩ <;> simp [definition isDefinition, isDefinition]
  by_cases isReference : t.kind = "footnote_ref"
  · rcases pair with ⟨rfl, rfl⟩ | ⟨rfl, rfl⟩ <;> simp [reference isReference, isReference]
  have plain := other (by simp [isDefinition, isReference]) known
  simp only [noteKinds, List.mem_cons, List.not_mem_nil, or_false, not_or] at plain
  rcases pair with ⟨rfl, rfl⟩ | ⟨rfl, rfl⟩ <;> simp [plain, isDefinition, isReference]

/-- The footnotes of a document are those that are read in its syntax tree, one for each and in
order, and so are the references to footnotes. -/
theorem forall₂_of_build {tree node : String} (pair : (tree, node) ∈ footnoteKinds)
    (known : ∀ u ∈ t.read, u.kind ∉ noteKinds) (h : build position t = .ok ns) :
    List.Forall₂ (Becomes position) (t.read.filter (·.kind = tree)) (ns.flatMap (ofKind node)) := by
  induction t using Tree.induct generalizing ns with
  | step t ih =>
    obtain ⟨cs, each, made⟩ := made_of_build h
    obtain ⟨notInline, note⟩ := mem_noteKinds pair
    have closed := closed_of_buildEach each
    rw [Tree.read_eq, List.forall_mem_cons] at known
    have below : List.Forall₂ (Becomes position)
        ((t.parts.flatMap Tree.read).filter (·.kind = tree)) (cs.flatMap (ofKind node)) := by
      refine forall₂_of_buildEach (fun u hu ns built => ?_) each
      refine ih u (Tree.sizeOf_lt_of_mem_parts hu) (fun v hv => known.2 v ?_) built
      exact List.mem_flatMap.2 ⟨u, hu, hv⟩
    rw [Tree.read_eq, List.filter_cons]
    cases made with
    | spliced inline =>
      have other : t.kind ≠ tree := by rw [inline]; exact notInline.symm
      rw [if_neg (by simpa using other), SameNotes.joinTexts closed node note]
      exact below
    | @node n kinds _ same =>
      rw [List.flatMap_singleton, ofKind_eq, same closed node note]
      by_cases isNote : t.kind = tree
      · rw [if_pos (by simpa using isNote), if_pos ((kinds.kind_iff known.1 pair).2 isNote)]
        exact .cons h below
      · rw [if_neg (by simpa using isNote),
          if_neg fun same => isNote ((kinds.kind_iff known.1 pair).1 same)]
        exact below

/-- The same of several trees, whose texts are joined. -/
theorem forall₂_of_buildAll {tree node : String} (pair : (tree, node) ∈ footnoteKinds)
    (known : ∀ u ∈ ts.flatMap Tree.read, u.kind ∉ noteKinds) (h : buildAll position ts = .ok ns) :
    List.Forall₂ (Becomes position) ((ts.flatMap Tree.read).filter (·.kind = tree))
      (ns.flatMap (ofKind node)) := by
  obtain ⟨cs, each, rfl⟩ := buildAll_eq_ok.1 h
  have closed := closed_of_buildEach each
  rw [SameNotes.joinTexts closed node (mem_noteKinds pair).2]
  refine forall₂_of_buildEach (fun u hu ns built => forall₂_of_build pair ?_ built) each
  exact fun v hv => known v (List.mem_flatMap.2 ⟨u, hu, hv⟩)

end Syntax

end MarkdownTree
