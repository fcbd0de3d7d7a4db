import MarkdownTree.Conversion.Session
import MarkdownTree.Proofs.Node.VisibleText
import MarkdownTree.Proofs.References
import MarkdownTree.Rendering

/-!
# Conversion keeps the visible text

Read from left to right, the texts of converted markup are the visible text of the node it was made
of: nothing is lost, repeated or moved, whatever definitions, overrides and settings there are.
The induction is on the weight of the node and follows the ways in which nodes are rendered; that
the rewritten node shows the text of the original one was proved without conversion.

A rendered document shows its tree and behind it its footnotes, each with the text of the last
footnote of its identifier.
-/

namespace MarkdownTree

namespace Markup

/-- The texts of several trees from left to right, as one text. -/
def read (ms : List Markup) : String := String.join (textsOfAll ms)

@[simp] theorem read_nil : read [] = "" := rfl

theorem textsOfAll_append (ms ms' : List Markup) :
    textsOfAll (ms ++ ms') = textsOfAll ms ++ textsOfAll ms' := by
  induction ms with
  | nil => rfl
  | cons m ms ih => rw [List.cons_append, textsOfAll, textsOfAll, ih, List.append_assoc]

@[simp] theorem read_append (ms ms' : List Markup) : read (ms ++ ms') = read ms ++ read ms' := by
  rw [read, textsOfAll_append, String.join_append]
  rfl

@[simp] theorem read_text (s : String) (ms : List Markup) :
    read (.text s :: ms) = s ++ read ms := String.join_cons

@[simp] theorem read_element (tag : Tag) (props : Fields) (children ms : List Markup) :
    read (.element tag props children :: ms) = read children ++ read ms := by
  simp only [read, textsOfAll, texts, String.join_append]

end Markup

namespace Conversion

open Node Markup

variable {c : Context} {frames : Nat} {n : Node} {key : String}
variable {children : Conversion (List Markup)}

/-- If each member is read as its node, so are those that are there. -/
theorem read_of_each {found : List (Option Markup)} {l : List Node} {i : Nat}
    (h : Each (fun _ d m => read m.toList = d.visibleText) i l found) :
    read (found.flatMap Option.toList) = visibleTexts l := by
  induction h with
  | nil => rfl
  | cons head _ ih => rw [List.flatMap_cons, read_append, head, ih, visibleTexts_cons]

theorem ensures_read_content (h : Ensures children fun ms => read ms = visibleTexts n.childList) :
    Ensures (content n children) fun ms => read ms = n.contentText := by
  unfold content contentText
  cases hv : n.value with
  | some value => exact .pure (by simp)
  | none =>
      split
      · contradiction
      · next d _ single =>
        split
        · next text =>
          refine .pure ?_
          rw [single, visibleTexts_cons, visibleText_of_isText text]
          cases d.value <;> simp
        · exact h
      · exact h

theorem ensures_read_generic (h : Ensures children fun ms => read ms = visibleTexts n.childList) :
    Ensures (generic c frames n key children) fun m =>
      read m.toList = if n.isUnrendered then "" else n.contentText := by
  unfold generic
  refine .seq fun _ => ?_
  split
  · next hidden => exact .pure (by simp [tag?_eq_none.1 hidden])
  · next tag shown =>
    have rendered : n.isUnrendered = false := by
      rw [← Bool.not_eq_true, ← tag?_eq_none, shown]
      simp
    refine .bind (ensures_read_content h) fun body hb => .seq fun props => .pure ?_
    simp [rendered, hb]

/-- An element is made for every node that is rendered. -/
theorem read_element? {tag? : Option Tag} {props : Fields} {ms : List Markup} (h : tag? ≠ none) :
    read (element? tag? props ms).toList = read ms := by
  cases tag? with
  | none => contradiction
  | some tag => simp [element?]

theorem ensures_read_code (h : n.kind = "code") :
    Ensures (code c n key) fun m => read m.toList = n.visibleText := by
  have shown : n.isUnrendered = false := by simp [isUnrendered, h]
  refine .seq fun props => .pure ?_
  rw [read_element? (tag?_ne_none shown), Node.visibleText_eq, visibleFrom, if_pos (by simp [h])]
  simp

theorem ensures_read_rawHtml (h : n.kind = "html") :
    Ensures (rawHtml c n key) fun m => read m.toList = n.visibleText := by
  have shown : n.isUnrendered = false := by simp [isUnrendered, h]
  refine .seq fun props => .pure ?_
  rw [read_element? (tag?_ne_none shown), Node.visibleText_eq, visibleFrom,
    if_neg (by simp [isText, h]), if_pos (by simp [h])]
  rfl

theorem ensures_read_task {done : Bool} (h : n.kind = "listItem") (checked : n.checked = some done)
    (hc : Ensures children fun ms => read ms = visibleTexts n.childList) :
    Ensures (task c n key done children) fun m => read m.toList = n.visibleText := by
  have shown : n.isUnrendered = false := by simp [isUnrendered, h]
  refine .seq fun props => .bind hc fun body hb => .pure ?_
  rw [read_element? (tag?_ne_none shown), Node.visibleText_eq, visibleFrom,
    if_neg (by simp [isText, h]), if_neg (by simp [h, shown]), if_pos (by simp [h, checked]),
    join_parts, checkbox, read_element, hb]
  rfl

/-- A node without a way of its own that is rendered is plain, as long as it is no task. -/
theorem isPlain_of_generic (text : n.isText = false) (shown : n.isUnrendered = false)
    (h : n.handling = .generic) : n.IsPlain := by
  have kinds := n.kind_of_handling
  rw [h] at kinds
  obtain ⟨code, item, html, table, _, _, footnote⟩ := kinds
  exact ⟨text, shown, code, html, fun kind => absurd kind item, footnote, table⟩

theorem isPlain_of_item (h : n.kind = "listItem") (unchecked : n.checked = none) : n.IsPlain := by
  refine ⟨?_, ?_, ?_, ?_, fun _ => unchecked, ?_, ?_⟩ <;> simp [isText, isUnrendered, h]

/-- One case for each way of rendering. Each rewritten node is rendered generically, and its
content is the text of the node. -/
theorem ensures_read_render (text : n.isText = false)
    (h : Ensures children fun ms => read ms = visibleTexts n.rewritten.childList) :
    Ensures (render c frames n key children) fun m => read m.toList = n.visibleText := by
  have kind := n.kind_of_handling
  have regrouped {r : Node} (frames : Nat) (same : n.rewritten = r) (kind : r.kind = n.kind)
      (shown : n.isUnrendered = false) (content : r.contentText = n.visibleText) :
      Ensures (generic c frames r key children) fun m => read m.toList = n.visibleText := by
    refine (ensures_read_generic (same ▸ h)).mono fun m hm => ?_
    rw [hm, isUnrendered, kind, ← isUnrendered, shown]
    exact content
  unfold render
  refine .seq fun _ => ?_
  cases hh : n.handling with
  | generic =>
      simp only [rewritten, hh] at h
      refine (ensures_read_generic h).mono fun m hm => ?_
      cases shown : n.isUnrendered with
      | true => rw [hm, shown, visibleText_of_isUnrendered shown, if_pos rfl]
      | false =>
          rw [hm, shown, (isPlain_of_generic text shown hh).visibleText_eq]
          exact if_neg (by decide)
  | code => exact .seq fun _ => ensures_read_code (by simpa only [hh] using kind)
  | html => exact .seq fun _ => ensures_read_rawHtml (by simpa only [hh] using kind)
  | listItem =>
      simp only [hh] at kind
      simp only [rewritten, hh] at h
      refine .seq fun _ => ?_
      split
      · next unchecked =>
        refine (ensures_read_generic h).mono fun m hm => ?_
        rw [hm, (isPlain_of_item kind unchecked).visibleText_eq]
        simp [isUnrendered, kind]
      · next done checked => exact ensures_read_task kind checked h
  | table =>
      simp only [hh] at kind
      refine .seq fun _ => ?_
      have same : n.rewritten = n.restructureTable := by simp only [rewritten, hh]
      rw [same]
      exact regrouped _ same rfl (by simp [isUnrendered, kind]) (contentText_restructureTable kind)
  | tableHeader =>
      simp only [hh] at kind
      refine .seq fun _ => ?_
      have same : n.rewritten = n.headerRows := by simp only [rewritten, hh]
      rw [same]
      exact regrouped _ same rfl (by simp [isUnrendered, kind]) (contentText_headerRows kind)
  | tableFooter =>
      simp only [hh] at kind
      refine .seq fun _ => ?_
      have same : n.rewritten = n.footerRows := by simp only [rewritten, hh]
      have unchanged : n.footerRows.kind = n.kind := by
        unfold footerRows
        split <;> rfl
      rw [same]
      exact regrouped _ same unchanged (by simp [isUnrendered, kind]) (contentText_footerRows kind)
  | footnoteReference =>
      simp only [hh] at kind
      refine .seq fun _ => ?_
      have same : n.rewritten = n.withChildren [n.footnoteMark] := by simp only [rewritten, hh]
      rw [same]
      exact regrouped _ same rfl (by simp [isUnrendered, kind])
        (contentText_footnoteReference kind)

theorem ensures_read_convertEach {nodes : List Node}
    (h : ∀ frames key, ∀ d ∈ nodes,
      Ensures (convert c frames d key) fun m => read m.toList = d.visibleText) :
    Ensures (convertEach c frames nodes) fun ms => read ms = visibleTexts nodes := by
  refine (Ensures.collectEach fun i d member => h frames (toString i) d member).mono ?_
  rintro ms ⟨found, each, rfl⟩
  exact read_of_each each

theorem ensures_read_convert (c : Context) (frames : Nat) (n : Node) (key : String) :
    Ensures (convert c frames n key) fun m => read m.toList = n.visibleText := by
  induction hw : n.weight using Nat.strongRecOn generalizing frames n key with
  | ind w ih =>
      rw [convert_eq]
      refine .seq fun _ => ?_
      split
      · next text =>
        refine .pure ?_
        rw [visibleText_of_isText text]
        cases n.value <;> simp
      · next text =>
        refine .within _ (ensures_read_render (by simpa using text) ?_)
        refine ensures_read_convertEach fun frames key d member => ?_
        exact ih d.weight (hw ▸ weight_lt_of_mem_rewritten member) frames d key rfl

end Conversion

namespace Node

/-- The label in front of a footnote: only a footnote that is a single paragraph has one, and a
paragraph with a value of its own does not show it. -/
def footnoteLabel (f : Node) : String :=
  match f.childList with
  | [p] =>
    if p.kind = "paragraph" ∧ p.value = none then "[" ++ f.identifier.getD "None" ++ "]: " else ""
  | _ => ""

/-- The text of a footnote: its value, or else its label and its children. -/
def footnoteText (f : Node) : String := f.value.getD (f.footnoteLabel ++ visibleTexts f.childList)

theorem visibleText_of_paragraph {p : Node} (h : p.kind = "paragraph") :
    p.visibleText = p.contentText := by
  refine IsPlain.visibleText_eq ⟨?_, ?_, ?_, ?_, ?_, ?_, ?_⟩ <;> simp [isText, isUnrendered, h]

/-- The label that is put in front of a paragraph is read before it. -/
theorem visibleTexts_labelled (f : Node) :
    visibleTexts (Gathered.labelled f).childList = f.footnoteLabel ++ visibleTexts f.childList := by
  rcases hc : f.childList with _ | ⟨p, _ | ⟨p', ps⟩⟩
  · simp [Gathered.labelled, footnoteLabel, hc]
  · by_cases kind : p.kind = "paragraph"
    · simp only [Gathered.labelled, footnoteLabel, hc, if_pos kind, childList_withChildren,
        visibleTexts_cons, visibleTexts_nil, String.append_empty]
      rw [visibleText_of_paragraph (p := p.withChildren _) kind, visibleText_of_paragraph kind]
      simp only [contentText, value_withChildren, childList_withChildren, visibleTexts_cons]
      rw [visibleText_of_isText (by simp [isText])]
      cases p.value <;> simp [kind]
    · simp [Gathered.labelled, footnoteLabel, hc, kind]
  · simp [Gathered.labelled, footnoteLabel, hc]

end Node

namespace Conversion

open Markup

variable {c : Context}

theorem ensures_read_renderFootnote (f : Node) :
    Ensures (References.renderFootnote c (Gathered.labelled f)) fun m =>
      read [m] = f.footnoteText := by
  have body : Ensures (References.footnoteBody c (Gathered.labelled f)) fun ms =>
      read ms = f.footnoteText := by
    unfold References.footnoteBody Node.footnoteText
    rw [Gathered.value_labelled]
    cases f.value with
    | some value => exact .pure (by simp)
    | none =>
        refine (ensures_read_convertEach ?_).mono fun ms hms => ?_
        · exact fun frames key d _ => ensures_read_convert c frames d key
        · rw [hms, Node.visibleTexts_labelled, Option.getD_none]
  exact .bind body fun ms hms => .pure (by simp [hms])

theorem ensures_read_renderFootnotes (fs : List Node) :
    Ensures (References.renderFootnotes c (fs.map Gathered.labelled)) fun ms =>
      read ms = String.join (fs.map Node.footnoteText) := by
  induction fs with
  | nil => exact .pure rfl
  | cons f fs ih =>
      refine .bind (ensures_read_renderFootnote f) fun m hm => .bind ih fun ms hms => .pure ?_
      rw [← List.singleton_append, read_append, hm, hms, List.map_cons, String.join_cons]

theorem ensures_read_collect (n : Node) (overrides : Overrides) (settings : Settings)
    (stackLimit : Option Nat) :
    Ensures (References.collect n overrides settings stackLimit) fun references =>
      read references.footnotes = String.join (n.shownFootnotes.map Node.footnoteText) := by
  rw [References.collect_eq]
  exact .bind (ensures_read_renderFootnotes _) fun ms hms => .pure hms

theorem read_withFootnotes {settings : Settings} {footnotes : List Markup} {root : Option Markup}
    {tag : Tag} {props : Fields} {children : List Markup}
    (h : Rendering.withFootnotes settings footnotes root = some (.element tag props children)) :
    read children = read root.toList ++ read footnotes := by
  unfold Rendering.withFootnotes at h
  split at h
  · next children' =>
    split at h
    · next none =>
      cases h
      simp [List.isEmpty_iff.1 none]
    · cases h
      simp [Rendering.footer]
  · next other =>
    exact absurd h (other _ _ _)

/-- Whatever conversion of a node succeeds, what it makes is read as the visible text of the node.
A document that is rendered to an element is read as its tree and then, in the order in which
their identifiers first occur, as its footnotes. -/
theorem convert_keeps_visibleText (n : Node) (overrides : Overrides) (settings : Settings)
    (stackLimit : Option Nat) :
    (∀ (definitions : Entries (Option String) Definition) (key : Option String) (m : Option Markup),
      (Converter.convert { context := { definitions, overrides, settings, stackLimit } } n key).1.1 =
        .ok m → read m.toList = n.visibleText) ∧
      ∀ (tag : Tag) (props : Fields) (children : List Markup),
        (start (Rendering.renderTree n overrides settings stackLimit)).1 =
          .ok (some (.element tag props children)) →
        read [.element tag props children] =
          n.visibleText ++ String.join (n.shownFootnotes.map Node.footnoteText) := by
  constructor
  · intro definitions key m run
    obtain ⟨q, run⟩ := start_fst_eq.1 run
    exact ensures_read_convert _ 0 n _ _ _ _ run
  · intro tag props children run
    obtain ⟨q, run⟩ := start_fst_eq.1 run
    obtain ⟨references, p, collected, rest⟩ := bind_eq_ok.1 run
    obtain ⟨root, p', converted, last⟩ := bind_eq_ok.1 rest
    obtain ⟨result, -⟩ := Prod.mk.inj last
    rw [read_element, read_nil, String.append_empty, read_withFootnotes (Except.ok.inj result),
      ensures_read_convert _ 0 n _ _ _ _ converted,
      ensures_read_collect n overrides settings stackLimit _ _ _ collected]

/-- A table whose header comes last, and a footnote that is defined twice. -/
def annotated : Node :=
  let footnote (text : String) : Node :=
    { Node.branch "footnoteDefinition" [.branch "paragraph" [.leaf "text" text]] with
      identifier := some "n" }
  .branch "root" [
    .branch "table" [
      .branch "tableRow" [.branch "tableCell" [.leaf "text" "body"]],
      .branch "tableHeader" [.branch "tableCell" [.leaf "text" "head "]]],
    { Node.branch "footnoteReference" [] with identifier := some "n" },
    footnote "first",
    footnote "last"]

theorem annotated_read :
    (∃ m, (Converter.convert { context := {} } annotated none).1.1 = .ok m ∧
        read m.toList = "head bodyn") ∧
      ∃ tag props children,
        (start (Rendering.renderTree annotated [] {})).1 =
            .ok (some (.element tag props children)) ∧
          read [.element tag props children] = "head bodyn[n]: last" := by
  obtain ⟨converted, rendered⟩ := convert_keeps_visibleText annotated [] {} usualStackLimit
  constructor
  · have ok : (Converter.convert { context := {} } annotated none).1.1.isOk = true := by
      decide +kernel
    obtain ⟨m, run⟩ := exists_of_isOk ok
    refine ⟨m, run, ?_⟩
    rw [converted [] none m run]
    decide +kernel
  · have nested : (start (Rendering.renderTree annotated [] {})).1.toOption.join.map height =
        some 5 := by
      decide +kernel
    rcases run : (start (Rendering.renderTree annotated [] {})).1 with
      e | (_ | (text | ⟨tag, props, children⟩)) <;> rw [run] at nested
    · cases nested
    · cases nested
    · cases nested
    · refine ⟨tag, props, children, rfl, ?_⟩
      rw [rendered tag props children run]
      decide +kernel

end Conversion

end MarkdownTree
