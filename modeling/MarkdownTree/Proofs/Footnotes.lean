import MarkdownTree.Proofs.Conversion.FootnoteLinks
import MarkdownTree.Proofs.Syntax.Footnotes
import MarkdownTree.Markup.Html
import MarkdownTree.Rendering
import Mathlib.Data.Option.Basic

/-!
# Footnotes from the syntax tree to the footer

A footnote is called by its label if it has one and by its number if it is an inline one. The two
ways of naming share one table, so a label that is the number of an inline footnote makes one
entry of two footnotes. Where no label is such a number, nothing is lost: the footer has one entry
for each footnote, and every reference leads to the entry of the footnote it refers to.
-/

namespace MarkdownTree.Rendering

open Syntax Conversion Markup

/-- What the nodes of a document are converted with. -/
def contextOf (doc : Node) (settings : Settings) (stackLimit : Option Nat) : Context :=
  { definitions := (Gathered.ofTree doc).definitions, settings, stackLimit }

/-- A rendered document: its content, and its footnotes at the end if there are any. -/
def page (settings : Settings) (content entries : List Markup) : Markup :=
  .element (.name "div") [("key", .string "0")]
    (if entries.isEmpty then content else content ++ [footer settings entries])

/-- The entry of a footnote: its identifier is that of the footnote, and it holds its body. -/
def IsEntryOf (c : Context) (position : Bool) (f : Footnote) (m : Markup) : Prop :=
  ∃ n, f.Becomes position n ∧ n.identifier = some f.identifier ∧ References.IsElementOf c n m

/-- The markup of a reference to a footnote. -/
def IsMarkupOf (c : Context) (position : Bool) (t : Tree) (e : Markup) : Prop :=
  ∃ r key, Becomes position t r ∧ Gives c key r (some e)

/-- The link leads to the element. -/
def LeadsTo (e m : Markup) : Prop :=
  ∃ id tag props children, e.IsFootnoteLink ("#" ++ id) ∧ m = .element tag props children ∧
    Entries.get? props "id" = some (.string id)

variable {position : Bool} {ts : List Tree} {env : Environment} {doc : Node} {c : Context}
  {settings : Settings} {stackLimit : Option Nat} {out : Option Markup}

theorem element_of_root (ho : c.overrides = []) (root : doc.kind = "root")
    (hm : Gives c "0" doc out) :
    ∃ content, out = some (.element (.name "div") [("key", .string "0")] content) := by
  have generic : doc.IsGeneric := by
    constructor <;> simp [Node.isText, Node.isUnrendered, Node.handling, Handling.ofKind, root]
  have plain : doc.rewritten = doc := by
    simp [Node.rewritten, Node.handling, Handling.ofKind, root]
  obtain ⟨frames, made⟩ := hm
  obtain ⟨props, content, rfl, hp, -⟩ := (ensures_assembled ho generic frames).of_yields made
  rw [plain] at hp ⊢
  obtain ⟨computed, hc, rfl⟩ := props_eq_merge ho hp
  have none : computedProps c doc = pure [] := by simp [computedProps, Node.isCell, root]
  rw [none] at hc
  rw [eq_of_yields_pure hc, Node.defaultTag_of_get? (by rw [root]; rfl)]
  exact ⟨content, rfl⟩

/-- A rendered document is the markup of its root with the entries that were collected. -/
theorem page_of_renderTree (root : doc.kind = "root")
    (run : (start (renderTree doc [] settings stackLimit)).1 = .ok out) :
    ∃ content entries, out = some (page settings content entries) ∧
      Gives (contextOf doc settings stackLimit) "0" doc
        (some (.element (.name "div") [("key", .string "0")] content)) ∧
      Each (fun _ => References.IsElementOf (contextOf doc settings stackLimit)) 0
        doc.shownFootnotes entries := by
  obtain ⟨q, unpacked⟩ := start_fst_eq.1 run
  obtain ⟨references, p, collected, rest⟩ := Conversion.bind_eq_ok.1 unpacked
  obtain ⟨m, p', converted, result⟩ := Conversion.bind_eq_ok.1 rest
  rw [References.collect_eq] at collected
  obtain ⟨entries, _, rendered, gathered⟩ := Conversion.bind_eq_ok.1 collected
  cases gathered
  have given : Gives (contextOf doc settings stackLimit) "0" doc m := ⟨0, p, p', converted⟩
  obtain ⟨content, rfl⟩ := element_of_root rfl root given
  cases result
  refine ⟨content, entries, ?_, given, ?_⟩
  · rw [withFootnotes, page]
    split <;> rfl
  · exact (References.each_start_of_renderFootnotes rendered).of_map fun _ _ _ _ made =>
      References.isElementOf_of_start made

/-- A link in the entry of a footnote was made of a reference in the footnote. -/
theorem exists_reference_of_entry (ho : c.overrides = []) {f : Node} (closed : f.ReferencesClosed)
    {m : Markup} (entry : References.IsElementOf c f m) {e : Markup} (he : e ∈ m.trees)
    {href : String} (link : e.IsFootnoteLink href) :
    ∃ r ∈ f.references, ∃ key, Gives c key r (some e) := by
  obtain ⟨body, rfl, held⟩ := entry
  rw [trees, List.mem_cons, mem_treesOfAll] at he
  rcases he with rfl | ⟨m, hm, he⟩
  · obtain ⟨_, _, same⟩ := link
    injection same with _ same _
    simp at same
  split at held
  · rw [held, List.mem_singleton] at hm
    subst hm
    exact absurd link (linkless_text _ e he href)
  · have made : Yields (convertEach c 0 (Gathered.labelled f).childList) body :=
      ⟨{}, _, Prod.ext held rfl⟩
    obtain ⟨d, hd, key, given⟩ := (ensures_convertEach 0 _).of_yields made m hm
    have below : d.references ⊆ f.references := Node.gathers_references.subset_of_labelled hd
    have closedChild : d.ReferencesClosed := fun r hr => closed r (below hr)
    obtain ⟨r, hr, found⟩ := exists_reference_of_link ho closedChild given he link
    exact ⟨r, below hr, found⟩

/-- No reference of a document that was built has children. -/
theorem referencesClosed_of_buildDocument (form : HasFootnotes ts env)
    (built : buildDocument position ts env = .ok doc) : doc.ReferencesClosed := by
  intro r hr
  obtain ⟨t, ht, made⟩ := exists_reference form.known built hr
  obtain ⟨_, _, rfl⟩ := reference_of_becomes (by simpa using (List.mem_filter.1 ht).2) made
  rfl

theorem forall₂_of_each {R : α → β → Prop} {i : Nat} {as : List α} {bs : List β}
    (h : Each (fun _ => R) i as bs) : List.Forall₂ R as bs := by
  induction h with
  | nil => exact .nil
  | cons head _ ih => exact .cons head ih

theorem forall₂_trans {R : α → β → Prop} {S : β → γ → Prop} {T : α → γ → Prop}
    (compose : ∀ a b c, R a b → S b c → T a c) {as : List α} {bs : List β} {cs : List γ}
    (first : List.Forall₂ R as bs) (second : List.Forall₂ S bs cs) : List.Forall₂ T as cs := by
  induction first generalizing cs with
  | nil =>
    cases second
    exact .nil
  | cons head _ ih =>
    cases second with
    | cons head' tail => exact .cons (compose _ _ _ head head') (ih tail)

/-- The identifiers of the footnotes of a document are distinct where no label is a number. -/
theorem nodup_map_identifier_iff (form : HasFootnotes ts env)
    (built : buildDocument position ts env = .ok doc) :
    (doc.footnoteNodes.map Node.identifier).Nodup ↔ NumbersFree ts env := by
  have names : (footnotes ts env).map (fun f => some f.identifier) =
      ((footnotes ts env).map Footnote.identifier).map some := by
    rw [List.map_map]
    rfl
  rw [map_identifier form built, names, List.nodup_map_iff (Option.some_injective _),
    nodup_identifiers_iff form]

/-- Where no label is a number, every footnote has its entry. -/
theorem forall₂_entries (form : HasFootnotes ts env)
    (built : buildDocument position ts env = .ok doc) (free : NumbersFree ts env)
    {entries : List Markup}
    (each : Each (fun _ => References.IsElementOf c) 0 doc.shownFootnotes entries) :
    List.Forall₂ (IsEntryOf c position) (footnotes ts env) entries := by
  rw [Node.shownFootnotes,
    Entries.lastOfEach_eq_self ((nodup_map_identifier_iff form built).2 free)] at each
  have nodes := (List.forall₂_and_left _ _).2 ⟨fun f hf => hf, forall₂_footnoteNodes form built⟩
  refine forall₂_trans ?_ nodes (forall₂_of_each each)
  rintro f n m ⟨hf, made⟩ element
  exact ⟨n, made, identifier_of_becomes form hf made, element⟩

/-- There are as many entries as footnotes exactly where no label is a number. -/
theorem length_entries_iff (form : HasFootnotes ts env)
    (built : buildDocument position ts env = .ok doc) {entries : List Markup}
    (each : Each (fun _ => References.IsElementOf c) 0 doc.shownFootnotes entries) :
    entries.length = (definitions ts env).length + env.inlineNotes.length ↔
      NumbersFree ts env := by
  have shown : entries.length =
      (Entries.distinct (doc.footnoteNodes.map Node.identifier)).length := by
    rw [each.length_eq, ← Entries.map_lastOfEach, List.length_map, Node.shownFootnotes]
  have all : (definitions ts env).length + env.inlineNotes.length =
      (doc.footnoteNodes.map Node.identifier).length := by
    rw [map_identifier form built, List.length_map, (footnotes_perm ts env).length_eq]
    simp
  rw [shown, all, Entries.length_distinct_eq_iff, nodup_map_identifier_iff form built]

/-- A reference leads to the entry of the footnote it refers to. -/
theorem leadsTo_of_referredBy (ho : c.overrides = []) {t : Tree} (kind : t.kind = "footnote_ref")
    {e : Markup} (made : IsMarkupOf c position t e) {f : Footnote} (referred : f.ReferredBy t)
    {m : Markup} (entry : IsEntryOf c position f m) : LeadsTo e m := by
  obtain ⟨r, key, became, given⟩ := made
  obtain rfl := eq_referenceTo kind became referred
  obtain ⟨n, _, names, body, rfl, _⟩ := entry
  refine ⟨f.identifier, _, _, body, isFootnoteLink_of_gives ho rfl rfl given, rfl, ?_⟩
  rw [names]
  rfl

/-- A link on a page is in its content or in an entry of its footer. -/
theorem mem_trees_of_page {content entries : List Markup} {e : Markup}
    (he : e ∈ (page settings content entries).trees) {href : String}
    (link : e.IsFootnoteLink href) :
    e ∈ treesOfAll content ∨ ∃ m ∈ entries, e ∈ m.trees := by
  have inner {tag : Tag} {value : Value} {children : List Markup}
      (h : e ∈ (Markup.element tag [("key", value)] children).trees) : e ∈ treesOfAll children := by
    rw [trees, List.mem_cons] at h
    rcases h with rfl | h
    · obtain ⟨_, _, same⟩ := link
      simp at same
    · exact h
  have below := inner he
  split at below
  · exact .inl below
  · obtain ⟨m, hm, he⟩ := mem_treesOfAll.1 below
    rcases List.mem_append.1 hm with hm | hm
    · exact .inl (mem_treesOfAll.2 ⟨m, hm, he⟩)
    · obtain rfl := List.mem_singleton.1 hm
      exact .inr (mem_treesOfAll.1 (inner he))

/-- Every link to a footnote on a page is the markup of a reference. -/
theorem exists_reference_of_page (form : HasFootnotes ts env)
    (built : buildDocument position ts env = .ok doc) (ho : c.overrides = [])
    {content entries : List Markup}
    (root : Gives c "0" doc (some (.element (.name "div") [("key", .string "0")] content)))
    (each : Each (fun _ => References.IsElementOf c) 0 doc.shownFootnotes entries) {e : Markup}
    (he : e ∈ (page settings content entries).trees) {href : String}
    (link : e.IsFootnoteLink href) :
    ∃ t ∈ references ts env, IsMarkupOf c position t e := by
  have closed := referencesClosed_of_buildDocument form built
  have found : ∃ r ∈ doc.references, ∃ key, Gives c key r (some e) := by
    rcases mem_trees_of_page he link with he | ⟨m, hm, he⟩
    · exact exists_reference_of_link ho closed root (List.mem_cons_of_mem _ he) link
    · obtain ⟨_, f, hf, entry⟩ := each.exists_of_mem hm
      have inside : f.references ⊆ doc.references := Node.gathers_references.subset_of_mem_preorder
        (List.mem_filter.1 (Entries.mem_of_mem_lastOfEach hf)).1
      have closedNote : f.ReferencesClosed := fun r hr => closed r (inside hr)
      obtain ⟨r, hr, given⟩ := exists_reference_of_entry ho closedNote entry he link
      exact ⟨r, inside hr, given⟩
  obtain ⟨r, hr, key, given⟩ := found
  obtain ⟨t, ht, made⟩ := exists_reference form.known built hr
  exact ⟨t, ht, r, key, made, given⟩

/-- The footer has one entry for each footnote, and every reference leads to the entry of its own
footnote, exactly where no label is the number of an inline footnote. -/
theorem footer_exact (form : HasFootnotes ts env)
    (built : buildDocument position ts env = .ok doc)
    (run : (start (renderTree doc [] settings stackLimit)).1 = .ok out) :
    ∃ content entries, out = some (page settings content entries) ∧
      (∀ e ∈ (page settings content entries).trees, ∀ href, e.IsFootnoteLink href →
        ∃ t ∈ references ts env, IsMarkupOf (contextOf doc settings stackLimit) position t e) ∧
      (entries.length = (definitions ts env).length + env.inlineNotes.length ↔
        NumbersFree ts env) ∧
      (NumbersFree ts env →
        List.Forall₂ (IsEntryOf (contextOf doc settings stackLimit) position)
          (footnotes ts env) entries ∧
        ∀ t ∈ references ts env, ∀ e,
          IsMarkupOf (contextOf doc settings stackLimit) position t e →
          ∀ f ∈ footnotes ts env, f.ReferredBy t →
            ∃ m ∈ entries, IsEntryOf (contextOf doc settings stackLimit) position f m ∧
              LeadsTo e m) := by
  have root : doc.kind = "root" := by
    obtain ⟨_, _, _, _, _, _, rfl⟩ := buildDocument_eq_ok built
    rfl
  obtain ⟨content, entries, same, given, each⟩ := page_of_renderTree root run
  refine ⟨content, entries, same, ?_, length_entries_iff form built each, fun free => ?_⟩
  · exact fun e he href link => exists_reference_of_page form built rfl given each he link
  · have kept := forall₂_entries form built free each
    refine ⟨kept, fun t ht e made f hf referred => ?_⟩
    obtain ⟨m, hm, entry⟩ := exists_of_forall₂ kept.flip hf
    refine ⟨m, hm, entry, leadsTo_of_referredBy rfl ?_ made referred entry⟩
    simpa using (List.mem_filter.1 ht).2

/-- A paragraph with an inline footnote and a reference to a named one, and the named one. -/
def noted (label : String) : List Tree :=
  let text (s : String) : Tree := { kind := "text", content := some s }
  let paragraph (children : List Tree) : Tree :=
    { kind := "paragraph", children := [{ kind := "inline", children }] }
  [paragraph [text "a", { kind := "footnote_ref", details := [("id", .int 0)] }, text " b",
      { kind := "footnote_ref", details := [("id", .int 1), ("label", .string label)] }],
    { kind := "footnote_reference", details := [("label", .string label)],
      children := [paragraph [text "named"]] }]

/-- Of two footnotes, the first is an inline one. -/
def inlineFirst : Environment :=
  { footnotes := [(0, some [{ kind := "text", content := some "inline" }]), (1, none)] }

/-- The document of these trees. -/
def notedDocument (label : String) : Node :=
  let footnote (id text : String) : Node :=
    { kind := "footnoteDefinition", identifier := some id, label := some id,
      children := some [.branch "paragraph" [.leaf "text" text]] }
  .branch "root" [
    .branch "paragraph" [.leaf "text" "a", referenceTo "1", .leaf "text" " b", referenceTo label],
    footnote label "named", footnote "1" "inline"]

/-- With a label that is no number both footnotes have an entry. -/
theorem namedApart_kept :
    HasFootnotes (noted "n") inlineFirst ∧
      buildDocument false (noted "n") inlineFirst = .ok (notedDocument "n") ∧
      ∃ out, (start (renderTree (notedDocument "n") [] {})).1 = .ok out ∧
        ∃ content entries, out = some (page {} content entries) ∧ entries.length = 2 ∧
          List.Forall₂ (IsEntryOf (contextOf (notedDocument "n") {} usualStackLimit) false)
            (footnotes (noted "n") inlineFirst) entries := by
  have form : HasFootnotes (noted "n") inlineFirst :=
    ⟨by decide +kernel, by decide +kernel, by decide +kernel, by decide +kernel, by decide +kernel⟩
  have built : buildDocument false (noted "n") inlineFirst = .ok (notedDocument "n") := by cbv
  have ok : (start (renderTree (notedDocument "n") [] {})).1.isOk = true := by decide +kernel
  obtain ⟨out, run⟩ := exists_of_isOk ok
  obtain ⟨content, entries, same, -, counted, kept⟩ := footer_exact form built run
  have free : NumbersFree (noted "n") inlineFirst := by decide +kernel
  refine ⟨form, built, out, run, content, entries, same, ?_, (kept free).1⟩
  rw [counted.2 free]
  decide +kernel

/-- With the label `1` the inline footnote takes the place of the named one: there is one entry for
both, and the reference to the named footnote leads to the other. -/
theorem namedAlike_confused :
    HasFootnotes (noted "1") inlineFirst ∧
      (definitions (noted "1") inlineFirst).length + inlineFirst.inlineNotes.length = 2 ∧
      buildDocument false (noted "1") inlineFirst = .ok (notedDocument "1") ∧
      ∃ m, (start (renderTree (notedDocument "1") [] {})).1 = .ok (some m) ∧
        String.ofList m.html =
          "<div><p>a<a href=\"#1\"><sup>1</sup></a> b<a href=\"#1\"><sup>1</sup></a></p>" ++
            "<footer><div id=\"1\"><p>[1]: inline</p></div></footer></div>" := by
  have form : HasFootnotes (noted "1") inlineFirst :=
    ⟨by decide +kernel, by decide +kernel, by decide +kernel, by decide +kernel, by decide +kernel⟩
  have built : buildDocument false (noted "1") inlineFirst = .ok (notedDocument "1") := by cbv
  have written : ((start (renderTree (notedDocument "1") [] {})).1.toOption.join.map fun m =>
      String.ofList m.html) = some (
        "<div><p>a<a href=\"#1\"><sup>1</sup></a> b<a href=\"#1\"><sup>1</sup></a></p>" ++
          "<footer><div id=\"1\"><p>[1]: inline</p></div></footer></div>") := by decide +kernel
  refine ⟨form, by decide +kernel, built, ?_⟩
  obtain ⟨m, found, text⟩ := Option.map_eq_some_iff.1 written
  refine ⟨m, ?_, text⟩
  cases run : (start (renderTree (notedDocument "1") [] {})).1 with
  | error e =>
    rw [run] at found
    cases found
  | ok out =>
    rw [run] at found
    exact congrArg _ (by simpa [Except.toOption] using found)

end MarkdownTree.Rendering
