import MarkdownTree.Proofs.References
import MarkdownTree.Proofs.Syntax.Build
import Mathlib.Data.List.Nodup
import Mathlib.Data.List.Permutation
import Std.Data.String.ToInt

/-!
# The footnotes of a syntax tree

A document has two sorts of footnotes. Named ones are trees, found anywhere in the body or in other
footnotes, and called by their label. Inline ones come as tokens in the environment and are called
by their number. `HasFootnotes` is what a reader of documents guarantees about both, and
`Footnote.ReferredBy` says which footnote a reference means, by its label or by its number and
without regard to what either is called in the document.

A document that was built has one footnote node for each of them, in order and under its identifier
(`forall₂_footnoteNodes`, `identifier_of_becomes`). These identifiers are distinct exactly if no
label is the number of an inline footnote (`nodup_identifiers_iff`).
-/

namespace MarkdownTree.Syntax

open Node

namespace Tree

/-- The label of a footnote or of a reference to one; an empty one is none. -/
def label? (t : Tree) : Option String :=
  match (Value.object t.details).member "label" with
  | .string s => if s = "" then none else some s
  | _ => none

/-- The number of a footnote that is referred to. -/
def number? (t : Tree) : Option Int :=
  match Entries.get? t.details "id" with
  | some (.int k) => some k
  | _ => none

end Tree

/-- A footnote: one that is named where it is defined, or one that is written where it is
referred to. -/
inductive Footnote where
  | named (t : Tree)
  | inline (number : Int) (tokens : List Token)

namespace Footnote

/-- What a footnote is called: its label, or its number counted from one. -/
def identifier : Footnote → String
  | named t => t.label?.getD ""
  | inline number _ => toString (number + 1)

/-- The footnote becomes the node. -/
def Becomes (position : Bool) : Footnote → Node → Prop
  | named t, n => Syntax.Becomes position t n
  | inline number tokens, n => inlineFootnote position number tokens = .ok n

/-- A reference with a label refers to the footnote of that name, one without to the inline
footnote of its number. -/
def ReferredBy (t : Tree) : Footnote → Prop
  | named d => t.label? = d.label? ∧ t.label? ≠ none
  | inline number _ => t.label? = none ∧ t.number? = some number

end Footnote

/-- The inline footnotes by number. -/
def Environment.inlineNotes (env : Environment) : List (Int × List Token) :=
  (env.footnotes.filterMap fun f => f.2.map fun ts => (f.1, ts)).mergeSort fun a b => a.1 ≤ b.1

/-- The trees in an inline footnote. -/
def treesOf (tokens : List Token) : List Tree := (Tree.nest? tokens).getD []

/-- All trees of a document, those in its inline footnotes included. -/
def allTrees (ts : List Tree) (env : Environment) : List Tree :=
  (ts ++ env.inlineNotes.flatMap fun f => treesOf f.2).flatMap Tree.preorder

/-- The named footnotes of a document. -/
def definitions (ts : List Tree) (env : Environment) : List Tree :=
  (allTrees ts env).filter (·.kind = "footnote_reference")

/-- The references to footnotes of a document. -/
def references (ts : List Tree) (env : Environment) : List Tree :=
  (allTrees ts env).filter (·.kind = "footnote_ref")

/-- The named footnotes of several trees. -/
def namedIn (ts : List Tree) : List Footnote :=
  ((ts.flatMap Tree.preorder).filter (·.kind = "footnote_reference")).map .named

/-- All footnotes of a document in order: the named ones, and the inline ones by their numbers. -/
def footnotes (ts : List Tree) (env : Environment) : List Footnote :=
  namedIn ts ++ env.inlineNotes.flatMap fun f => .inline f.1 f.2 :: namedIn (treesOf f.2)

/-- A syntax tree with footnotes as they are read: every named footnote has a label of its own and
stands where blocks stand, every inline one has a number of its own, and no tree is of a kind that
only documents have. -/
structure HasFootnotes (ts : List Tree) (env : Environment) : Prop where
  labelled : ∀ d ∈ definitions ts env, d.label? ≠ none
  distinct : ((definitions ts env).map Tree.label?).Nodup
  numbered : (env.footnotes.map Prod.fst).Nodup
  placed : ∀ t ∈ allTrees ts env, ∀ u ∈ t.skipped, u.kind ≠ "footnote_reference"
  known : ∀ t ∈ allTrees ts env, t.kind ∉ noteKinds

/-- No footnote is named like an inline one is numbered. -/
def NumbersFree (ts : List Tree) (env : Environment) : Prop :=
  ∀ d ∈ definitions ts env, ∀ f ∈ env.inlineNotes, d.label? ≠ some (toString (f.1 + 1))

instance (ts : List Tree) (env : Environment) : Decidable (NumbersFree ts env) :=
  inferInstanceAs (Decidable (∀ d ∈ definitions ts env, ∀ f ∈ env.inlineNotes,
    d.label? ≠ some (toString (f.1 + 1))))

/-! ### Identifiers -/

variable {position : Bool} {ts : List Tree} {env : Environment} {doc : Node}

/-- The footnotes of a document are its named ones and its inline ones. -/
theorem footnotes_perm (ts : List Tree) (env : Environment) :
    (footnotes ts env).Perm ((definitions ts env).map .named ++
      env.inlineNotes.map fun f => .inline f.1 f.2) := by
  have all : (definitions ts env).map Footnote.named =
      namedIn ts ++ env.inlineNotes.flatMap fun f => namedIn (treesOf f.2) := by
    simp only [definitions, allTrees, namedIn, List.flatMap_append, List.filter_append,
      List.map_append, List.flatMap_assoc, List.filter_flatMap, List.map_flatMap]
  have inner := List.flatMap_append_perm env.inlineNotes
    (fun f => [Footnote.inline f.1 f.2]) (fun f => namedIn (treesOf f.2))
  rw [← List.map_eq_flatMap] at inner
  rw [all, List.append_assoc]
  exact (inner.symm.trans List.perm_append_comm).append_left (namedIn ts)

theorem nodup_numbers (numbered : (env.footnotes.map Prod.fst).Nodup) :
    (env.inlineNotes.map Prod.fst).Nodup := by
  have first : env.footnotes.filterMap (fun f => f.2.map fun _ => f.1) =
      (env.footnotes.filter fun f => f.2.isSome).map Prod.fst := by
    induction env.footnotes with
    | nil => rfl
    | cons f fs ih =>
      obtain ⟨k, tokens⟩ := f
      cases tokens <;> simp [ih]
  have sorted := List.mergeSort_perm
    (env.footnotes.filterMap fun f => f.2.map fun ts => (f.1, ts)) fun a b => a.1 ≤ b.1
  refine (sorted.map Prod.fst).nodup_iff.2 ?_
  rw [List.map_filterMap]
  simp only [Option.map_map, Function.comp_def]
  rw [first]
  exact numbered.sublist ((List.filter_sublist).map Prod.fst)

/-- The identifiers of the footnotes are distinct exactly if no label is a number. -/
theorem nodup_identifiers_iff (form : HasFootnotes ts env) :
    ((footnotes ts env).map Footnote.identifier).Nodup ↔ NumbersFree ts env := by
  have label {d : Tree} (hd : d ∈ definitions ts env) :
      some (Footnote.named d).identifier = d.label? := by
    obtain ⟨s, labelled⟩ := Option.ne_none_iff_exists'.1 (form.labelled d hd)
    simp [Footnote.identifier, labelled]
  have named : ((definitions ts env).map fun d => (Footnote.named d).identifier).Nodup := by
    have labels : ((definitions ts env).map fun d => (Footnote.named d).identifier).map some =
        (definitions ts env).map Tree.label? := by
      rw [List.map_map]
      exact List.map_congr_left fun d hd => label hd
    exact .of_map some (labels ▸ form.distinct)
  have inline : (env.inlineNotes.map fun f => (Footnote.inline f.1 f.2).identifier).Nodup := by
    have distinct : Function.Injective fun k : Int => toString (k + 1) := by
      intro k l same
      have := Int.repr_injective same
      omega
    have numerals := (nodup_numbers form.numbered).map distinct
    rwa [List.map_map] at numerals
  rw [((footnotes_perm ts env).map _).nodup_iff, List.map_append, List.map_map, List.map_map,
    List.nodup_append]
  simp only [Function.comp_def, named, inline, true_and, List.forall_mem_map]
  refine forall₂_congr fun d hd => forall₂_congr fun f _ => not_congr ?_
  rw [← label hd, Option.some_inj]
  rfl

/-! ### The document -/

theorem forall₂_of_mapM {f : α → Build β} {as : List α} {bs : List β} (h : as.mapM f = .ok bs) :
    List.Forall₂ (fun a b => f a = .ok b) as bs := by
  induction as generalizing bs with
  | nil =>
    cases h
    exact .nil
  | cons a as ih =>
    rw [List.mapM_cons] at h
    obtain ⟨b, first, h⟩ := bind_eq_ok.1 h
    obtain ⟨bs', rest, last⟩ := bind_eq_ok.1 h
    cases last
    exact .cons first (ih rest)

theorem exists_of_forall₂ {R : α → β → Prop} {as : List α} {bs : List β} (h : List.Forall₂ R as bs)
    {b : β} (hb : b ∈ bs) : ∃ a ∈ as, R a b := by
  induction h with
  | nil => contradiction
  | @cons a _ as _ related _ ih =>
    rcases List.mem_cons.1 hb with rfl | hb
    · exact ⟨a, List.mem_cons_self, related⟩
    · obtain ⟨a', ha', related'⟩ := ih hb
      exact ⟨a', List.mem_cons_of_mem a ha', related'⟩

/-- The node of a definition: there is nothing below it, and it has neither text nor a place. -/
structure IsTarget (n : Node) : Prop where
  kind : n.kind = "definition"
  value : n.value = none
  childless : n.childList = []
  unplaced : n.position = none

/-- A document: what its trees become, its definitions, and its inline footnotes. -/
theorem buildDocument_eq_ok (built : buildDocument position ts env = .ok doc) :
    ∃ body targets notes, buildAll position ts = .ok body ∧
      (∀ n ∈ targets, IsTarget n) ∧
      List.Forall₂ (fun f n => inlineFootnote position f.1 f.2 = .ok n) env.inlineNotes notes ∧
      doc = { kind := "root", children := some (body ++ targets ++ notes) } := by
  obtain ⟨body, first, rest⟩ := bind_eq_ok.1 built
  obtain ⟨targets, second, rest⟩ := bind_eq_ok.1 rest
  obtain ⟨notes, third, last⟩ := bind_eq_ok.1 rest
  cases last
  refine ⟨body, targets, notes, first, fun n hn => ?_, forall₂_of_mapM third, rfl⟩
  obtain ⟨r, _, made⟩ := exists_of_forall₂ (forall₂_of_mapM second) hn
  obtain ⟨_, _, rfl⟩ := withTarget_eq_ok made
  exact ⟨rfl, rfl, rfl, rfl⟩

/-- An inline footnote is a footnote with one paragraph. -/
theorem inlineFootnote_eq_ok {number : Int} {tokens : List Token} {n : Node}
    (made : inlineFootnote position number tokens = .ok n) :
    ∃ children, buildAll position (treesOf tokens) = .ok children ∧
      n = { kind := "footnoteDefinition", identifier := some (toString (number + 1)),
            label := some (toString (number + 1)),
            children := some [{ kind := "paragraph", children := some children }] } := by
  unfold inlineFootnote at made
  split at made
  · contradiction
  · next trees nested =>
    obtain ⟨children, body, last⟩ := bind_eq_ok.1 made
    cases last
    exact ⟨children, by rw [treesOf, nested]; exact body, rfl⟩

/-- The footnotes of a document, or the references in it, are those of its parts. -/
theorem ofKind_document {kind : String} (note : kind ∈ noteKinds) {body targets notes : List Node}
    (plain : ∀ n ∈ targets, IsTarget n) :
    Node.ofKind kind { kind := "root", children := some (body ++ targets ++ notes) } =
      body.flatMap (ofKind kind) ++ notes.flatMap (ofKind kind) := by
  have root : "root" ≠ kind := by rintro rfl; exact absurd note (by decide)
  have target : "definition" ≠ kind := by rintro rfl; exact absurd note (by decide)
  have none : targets.flatMap (ofKind kind) = [] := by
    refine List.flatMap_eq_nil_iff.2 fun n hn => ?_
    rw [ofKind_of_ne (by rw [(plain n hn).kind]; exact target), (plain n hn).childless,
      List.flatMap_nil]
  rw [ofKind_of_ne root]
  change (body ++ targets ++ notes).flatMap (ofKind kind) = _
  rw [List.flatMap_append, List.flatMap_append, none, List.append_nil]

/-- An inline footnote is a footnote around what its tokens become. -/
theorem ofKind_inlineFootnote {number : Int} {tokens : List Token} {n : Node}
    (made : inlineFootnote position number tokens = .ok n) :
    ∃ children, buildAll position (treesOf tokens) = .ok children ∧
      n.ofKind "footnoteDefinition" = n :: children.flatMap (ofKind "footnoteDefinition") ∧
      n.ofKind "footnoteReference" = children.flatMap (ofKind "footnoteReference") := by
  obtain ⟨children, body, rfl⟩ := inlineFootnote_eq_ok made
  have paragraph {kind : String} (other : "paragraph" ≠ kind) :
      [({ kind := "paragraph", children := some children } : Node)].flatMap (ofKind kind) =
        children.flatMap (ofKind kind) := by
    rw [List.flatMap_singleton, ofKind_of_ne other]
    rfl
  refine ⟨children, body, ?_, ?_⟩
  · rw [ofKind_eq, if_pos rfl, List.singleton_append]
    exact congrArg _ (paragraph (by decide))
  · rw [ofKind_of_ne (show "footnoteDefinition" ≠ "footnoteReference" by decide)]
    exact paragraph (by decide)

/-- Named footnotes become footnotes, one for each and in order. -/
theorem forall₂_namedIn {trees : List Tree} {ns : List Node}
    (placed : ∀ t ∈ trees.flatMap Tree.preorder, ∀ u ∈ t.skipped, u.kind ≠ "footnote_reference")
    (known : ∀ t ∈ trees.flatMap Tree.preorder, t.kind ∉ noteKinds)
    (built : buildAll position trees = .ok ns) :
    List.Forall₂ (Footnote.Becomes position) (namedIn trees)
      (ns.flatMap (ofKind "footnoteDefinition")) := by
  have reads : (trees.flatMap Tree.read).filter (·.kind = "footnote_reference") =
      (trees.flatMap Tree.preorder).filter (·.kind = "footnote_reference") := by
    have each (t : Tree) (ht : t ∈ trees) : t.read.filter (·.kind = "footnote_reference") =
        t.preorder.filter (·.kind = "footnote_reference") :=
      Tree.filter_read fun u hu => placed u (List.mem_flatMap.2 ⟨t, ht, hu⟩)
    rw [List.filter_flatMap, List.filter_flatMap, List.flatMap_congr each]
  rw [namedIn, List.forall₂_map_left_iff, ← reads]
  refine forall₂_of_buildAll (by decide) (fun u hu => ?_) built
  obtain ⟨t, ht, hu⟩ := List.mem_flatMap.1 hu
  exact known u (List.mem_flatMap.2 ⟨t, ht, Tree.mem_preorder_of_read hu⟩)

theorem mem_allTrees_of_body {t : Tree} (h : t ∈ ts.flatMap Tree.preorder) :
    t ∈ allTrees ts env := by
  rw [allTrees, List.flatMap_append]
  exact List.mem_append_left _ h

theorem mem_allTrees_of_note {f : Int × List Token} (hf : f ∈ env.inlineNotes) {t : Tree}
    (h : t ∈ (treesOf f.2).flatMap Tree.preorder) : t ∈ allTrees ts env := by
  obtain ⟨u, hu, ht⟩ := List.mem_flatMap.1 h
  refine List.mem_flatMap.2 ⟨u, List.mem_append_right _ ?_, ht⟩
  exact List.mem_flatMap.2 ⟨f, hf, hu⟩

/-- Inline footnotes become footnotes, each before the named ones that are written in it. -/
theorem forall₂_inlineNotes (form : HasFootnotes ts env) {fs : List (Int × List Token)}
    (sub : fs ⊆ env.inlineNotes) {notes : List Node}
    (made : List.Forall₂ (fun f n => inlineFootnote position f.1 f.2 = .ok n) fs notes) :
    List.Forall₂ (Footnote.Becomes position)
      (fs.flatMap fun f => .inline f.1 f.2 :: namedIn (treesOf f.2))
      (notes.flatMap (ofKind "footnoteDefinition")) := by
  induction made with
  | nil => exact .nil
  | @cons f n fs notes head _ ih =>
    obtain ⟨hf, rest⟩ := List.cons_subset.1 sub
    obtain ⟨children, below, own, _⟩ := ofKind_inlineFootnote head
    rw [List.flatMap_cons, List.flatMap_cons, own]
    have inside := forall₂_namedIn (fun t ht => form.placed t (mem_allTrees_of_note hf ht))
      (fun t ht => form.known t (mem_allTrees_of_note hf ht)) below
    have note : Footnote.Becomes position (.inline f.1 f.2) n := head
    exact List.rel_append (List.Forall₂.cons note inside) (ih rest)

/-- The footnotes of a document are one for each footnote of its syntax tree, in order. -/
theorem forall₂_footnoteNodes (form : HasFootnotes ts env)
    (built : buildDocument position ts env = .ok doc) :
    List.Forall₂ (Footnote.Becomes position) (footnotes ts env) doc.footnoteNodes := by
  obtain ⟨body, targets, notes, first, plain, third, rfl⟩ := buildDocument_eq_ok built
  have named := forall₂_namedIn (fun t ht => form.placed t (mem_allTrees_of_body ht))
    (fun t ht => form.known t (mem_allTrees_of_body ht)) first
  change List.Forall₂ _ _ (ofKind "footnoteDefinition" _)
  rw [ofKind_document (by decide) plain]
  exact List.rel_append named (forall₂_inlineNotes form (List.Subset.refl _) third)

/-- References in several trees become references. -/
theorem exists_reference_of_buildAll {trees : List Tree} {ns : List Node}
    (known : ∀ t ∈ trees.flatMap Tree.preorder, t.kind ∉ noteKinds)
    (built : buildAll position trees = .ok ns) {r : Node}
    (hr : r ∈ ns.flatMap (ofKind "footnoteReference")) :
    ∃ t ∈ trees.flatMap Tree.preorder, t.kind = "footnote_ref" ∧ Becomes position t r := by
  have sub {u : Tree} (hu : u ∈ trees.flatMap Tree.read) : u ∈ trees.flatMap Tree.preorder := by
    obtain ⟨t, ht, hu⟩ := List.mem_flatMap.1 hu
    exact List.mem_flatMap.2 ⟨t, ht, Tree.mem_preorder_of_read hu⟩
  have related : List.Forall₂ (Becomes position)
      ((trees.flatMap Tree.read).filter (·.kind = "footnote_ref"))
      (ns.flatMap (ofKind "footnoteReference")) :=
    forall₂_of_buildAll (by decide) (fun u hu => known u (sub hu)) built
  obtain ⟨t, ht, made⟩ := exists_of_forall₂ related hr
  obtain ⟨reads, kind⟩ := List.mem_filter.1 ht
  exact ⟨t, sub reads, by simpa using kind, made⟩

/-- Every reference to a footnote in a document is made of one in its syntax tree. -/
theorem exists_reference (known : ∀ t ∈ allTrees ts env, t.kind ∉ noteKinds)
    (built : buildDocument position ts env = .ok doc) {r : Node}
    (hr : r ∈ doc.ofKind "footnoteReference") :
    ∃ t ∈ references ts env, Becomes position t r := by
  obtain ⟨body, targets, notes, first, plain, third, rfl⟩ := buildDocument_eq_ok built
  rw [ofKind_document (by decide) plain, List.mem_append] at hr
  have found : ∃ t ∈ allTrees ts env, t.kind = "footnote_ref" ∧ Becomes position t r := by
    rcases hr with hr | hr
    · obtain ⟨t, ht, made⟩ := exists_reference_of_buildAll
        (fun t ht => known t (mem_allTrees_of_body ht)) first hr
      exact ⟨t, mem_allTrees_of_body ht, made⟩
    · obtain ⟨n, hn, hr⟩ := List.mem_flatMap.1 hr
      obtain ⟨f, hf, made⟩ := exists_of_forall₂ third hn
      obtain ⟨children, below, _, inside⟩ := ofKind_inlineFootnote made
      rw [inside] at hr
      obtain ⟨t, ht, made⟩ := exists_reference_of_buildAll
        (fun t ht => known t (mem_allTrees_of_note hf ht)) below hr
      exact ⟨t, mem_allTrees_of_note hf ht, made⟩
  obtain ⟨t, ht, kind, made⟩ := found
  exact ⟨t, List.mem_filter.2 ⟨ht, by simpa using kind⟩, made⟩

/-! ### What footnotes and references are called -/

variable {t : Tree} {n : Node}

/-- A reference to the footnote of the given name. -/
def referenceTo (s : String) : Node :=
  { kind := "footnoteReference", identifier := some s, label := some s }

theorem footnote_of_becomes (kind : t.kind = "footnote_reference") (h : Becomes position t n) :
    ∃ s, footnoteLabel t.details = .ok (.string s) ∧ n.identifier = some s := by
  rw [Becomes, build] at h
  simp only [kind] at h
  obtain ⟨label, found, h⟩ := bind_eq_ok.1 h
  obtain ⟨children, _, h⟩ := bind_eq_ok.1 h
  obtain ⟨m, labelled, last⟩ := bind_eq_ok.1 h
  cases last
  obtain ⟨s, rfl, rfl⟩ := withLabel_eq_ok labelled
  exact ⟨s, found, rfl⟩

theorem reference_of_becomes (kind : t.kind = "footnote_ref") (h : Becomes position t n) :
    ∃ s, footnoteLabel t.details = .ok (.string s) ∧ n = referenceTo s := by
  rw [Becomes, build] at h
  simp only [kind] at h
  obtain ⟨label, found, h⟩ := bind_eq_ok.1 h
  obtain ⟨m, labelled, last⟩ := bind_eq_ok.1 h
  cases last
  obtain ⟨s, rfl, rfl⟩ := withLabel_eq_ok labelled
  exact ⟨s, found, rfl⟩

theorem footnoteLabel_of_label? {s : String} (h : t.label? = some s) :
    footnoteLabel t.details = .ok (.string s) := by
  unfold Tree.label? at h
  split at h
  · next label found =>
    split at h
    · cases h
    · next nonempty =>
      cases h
      rw [footnoteLabel, found]
      exact if_pos (by simpa [Value.isTruthy] using nonempty)
  · cases h

theorem eq_of_number? {k : Int} {s : String} (unlabelled : t.label? = none)
    (number : t.number? = some k) (h : footnoteLabel t.details = .ok (.string s)) :
    s = toString (k + 1) := by
  have id : Entries.get? t.details "id" = some (.int k) := by
    unfold Tree.number? at number
    split at number
    · cases number
      assumption
    · cases number
  unfold footnoteLabel at h
  dsimp only at h
  split at h
  · next truthy =>
    -- a label that counts would have been found
    have label : (Value.object t.details).member "label" = .string s := by
      injection h
    rw [label] at truthy
    have nonempty : s ≠ "" := by simpa [Value.isTruthy] using truthy
    simp [Tree.label?, label, nonempty] at unlabelled
  · rw [id] at h
    cases h
    rfl

/-- A reference names the footnote that it refers to. -/
theorem eq_referenceTo (kind : t.kind = "footnote_ref") (h : Becomes position t n) {f : Footnote}
    (referred : f.ReferredBy t) : n = referenceTo f.identifier := by
  obtain ⟨s, label, rfl⟩ := reference_of_becomes kind h
  cases f with
  | named d =>
    obtain ⟨same, labelled⟩ := referred
    obtain ⟨l, found⟩ := Option.ne_none_iff_exists'.1 labelled
    rw [footnoteLabel_of_label? found] at label
    cases label
    rw [Footnote.identifier, ← same, found]
    rfl
  | inline number tokens => rw [eq_of_number? referred.1 referred.2 label, Footnote.identifier]

theorem mem_definitions_of_named {d : Tree} (h : .named d ∈ footnotes ts env) :
    d ∈ definitions ts env := by
  rw [(footnotes_perm ts env).mem_iff, List.mem_append] at h
  rcases h with h | h
  · obtain ⟨_, hd, same⟩ := List.mem_map.1 h
    cases same
    exact hd
  · obtain ⟨_, _, same⟩ := List.mem_map.1 h
    cases same

/-- A footnote keeps its identifier. -/
theorem identifier_of_becomes (form : HasFootnotes ts env) {f : Footnote}
    (hf : f ∈ footnotes ts env) (h : f.Becomes position n) : n.identifier = some f.identifier := by
  cases f with
  | named d =>
    have there := mem_definitions_of_named hf
    obtain ⟨l, found⟩ := Option.ne_none_iff_exists'.1 (form.labelled d there)
    obtain ⟨s, label, identifier⟩ :=
      footnote_of_becomes (by simpa using (List.mem_filter.1 there).2) h
    rw [footnoteLabel_of_label? found] at label
    cases label
    rw [identifier, Footnote.identifier, found]
    rfl
  | inline number tokens =>
    obtain ⟨_, _, rfl⟩ := inlineFootnote_eq_ok h
    rfl

theorem map_identifier (form : HasFootnotes ts env)
    (built : buildDocument position ts env = .ok doc) :
    doc.footnoteNodes.map Node.identifier = (footnotes ts env).map fun f => some f.identifier := by
  have related := (List.forall₂_and_left _ _).2 ⟨fun f hf => hf, forall₂_footnoteNodes form built⟩
  have same : List.Forall₂ (· = ·) ((footnotes ts env).map fun f => some f.identifier)
      (doc.footnoteNodes.map Node.identifier) := by
    rw [List.forall₂_map_left_iff, List.forall₂_map_right_iff]
    exact related.imp fun f n h => (identifier_of_becomes form h.1 h.2).symm
  exact (List.forall₂_eq_eq_eq ▸ same).symm

end MarkdownTree.Syntax
