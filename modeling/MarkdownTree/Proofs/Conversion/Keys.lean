import MarkdownTree.Proofs.Conversion.FootnoteLinks
import MarkdownTree.Proofs.Conversion.Outline
import MarkdownTree.Proofs.References
import Std.Data.String.ToNat

/-!
# Keys of siblings

An element is known among its siblings by its key. As long as no override sets keys, the keys of
siblings differ, at every level of a rendered document: they are the positions of the nodes that
they are made of, the fixed keys of a task's box and of the footnotes, or, between footnotes, their
identifiers. The only element without a key is the inner element of a block of code, which has no
siblings of its own.

The keys are read off the outline. Nodes that are not rendered leave gaps between the positions, so
the keys of the children are a sublist of all positions (`keys_outlines_sublist`).
-/

namespace MarkdownTree

namespace Markup

/-- The key of an element. -/
def key? : Markup → Option Value
  | .text _ => none
  | .element _ props _ => Entries.get? props "key"

/-- What is directly inside of an element. -/
def children : Markup → List Markup
  | .text _ => []
  | .element _ _ children => children

/-- The keys of the children that have one, in order. -/
def childKeys (m : Markup) : List Value := m.children.filterMap key?

/-- The children of the tree have different keys. A child element has no key only if it is the first
child of the element of a block of code, and the inner element of this block. -/
structure Keyed (n : Node) (overrides : Overrides) (m : Markup) : Prop where
  distinct : m.childKeys.Nodup
  keyless : ∀ tag props body, .element tag props body ∈ m.children →
    Entries.get? props "key" = none →
      ∃ b ∈ n.ofKind "code", .element tag props body = b.innerCode ∧
        ∃ outer rest, m = .element (b.tagUnder overrides) outer (b.innerCode :: rest)

variable {n : Node} {overrides : Overrides}

theorem keyed_text (s : String) : Keyed n overrides (.text s) :=
  ⟨List.nodup_nil, fun _ _ _ member => absurd member List.not_mem_nil⟩

/-- All trees in the tree are keyed. -/
def AllKeyed (n : Node) (overrides : Overrides) (m : Markup) : Prop :=
  ∀ p ∈ m.trees, p.Keyed n overrides

theorem allKeyed_text (s : String) : AllKeyed n overrides (.text s) := by
  intro p hp
  rw [trees, List.mem_singleton] at hp
  exact hp ▸ keyed_text s

theorem allKeyed_element {tag : Tag} {props : Fields} {body : List Markup}
    (own : Keyed n overrides (.element tag props body))
    (each : ∀ m ∈ body, AllKeyed n overrides m) :
    AllKeyed n overrides (.element tag props body) := by
  intro p hp
  rw [trees, List.mem_cons, mem_treesOfAll] at hp
  rcases hp with rfl | ⟨m, hm, hp⟩
  · exact own
  · exact each m hm p hp

theorem AllKeyed.own {m : Markup} (h : AllKeyed n overrides m) : m.Keyed n overrides := by
  refine h m ?_
  cases m <;> simp [trees]

theorem AllKeyed.child {tag : Tag} {props : Fields} {body : List Markup}
    (h : AllKeyed n overrides (.element tag props body)) {m : Markup} (hm : m ∈ body) :
    AllKeyed n overrides m := by
  intro p hp
  refine h p ?_
  rw [trees, List.mem_cons, mem_treesOfAll]
  exact .inr ⟨m, hm, hp⟩

end Markup

/-- No override sets the key of an element. -/
def NeverSetKey (overrides : Overrides) : Prop :=
  ∀ kind o, Entries.get? overrides kind = some o → "key" ∉ Entries.keys o.props ∧
    ∀ f, o.dynamicProps = some f → ∀ n fields, f n = .ok fields → "key" ∉ Entries.keys fields

namespace Conversion

open Markup Outline

variable {c : Context} {n : Node} {key : String}

/-! ### The key of an element -/

theorem key_not_mem_staticFields (h : NeverSetKey c.overrides) (n : Node) :
    "key" ∉ Entries.keys (n.staticFields c.overrides) := by
  unfold Node.staticFields
  cases own : Entries.get? c.overrides n.kind with
  | none => simp
  | some o => exact (h n.kind o own).1

theorem key_not_mem_dynamicFields (h : NeverSetKey c.overrides) (n : Node) :
    "key" ∉ Entries.keys (n.dynamicFields c.overrides) := by
  unfold Node.dynamicFields
  cases own : Entries.get? c.overrides n.kind with
  | none => simp
  | some o =>
    rw [Option.bind_some]
    cases given : o.dynamicProps with
    | none => simp
    | some f =>
      rw [Option.bind_some]
      cases made : f n with
      | error message => simp [Except.toOption]
      | ok fields => exact (h n.kind o own).2 f given n fields made

theorem key_not_mem_computedFields (definitions : Entries (Option String) Definition) (n : Node) :
    "key" ∉ Entries.keys (n.computedFields definitions) := by
  unfold Node.computedFields
  cases run : (start (computedProps { definitions, settings := default } n)).1 with
  | error e => simp [Except.toOption]
  | ok fields =>
    obtain ⟨q, ran⟩ := start_fst_eq.1 run
    exact key_not_mem_computedProps _ _ _ ran

theorem get?_propsUnder_key (h : NeverSetKey c.overrides) (n : Node) (key : String) :
    Entries.get? (n.propsUnder c key) "key" = some (.string key) := by
  have final : "key" ∉ Entries.keys n.finalFields := by
    unfold Node.finalFields
    split <;> simp
  rw [Node.propsUnder, Node.givenFields, Entries.ofList, Entries.merge_append,
    Entries.get?_merge_of_not_mem final, Entries.merge_append,
    Entries.get?_merge_of_not_mem (key_not_mem_dynamicFields h n), Entries.merge_append,
    Entries.get?_merge_of_not_mem (key_not_mem_staticFields h n), Entries.merge_cons,
    Entries.get?_merge_of_not_mem (key_not_mem_computedFields c.definitions n)]
  rfl

theorem key?_innerCode (n : Node) : n.innerCode.key? = none := by
  rw [Node.innerCode, key?]
  split <;> rfl

theorem key?_ownOutline (h : NeverSetKey c.overrides) (n : Node) (key : String) :
    (dress c (n.ownOutline key)).key? = some (.string key) := by
  rw [Node.ownOutline, dress_element]
  exact get?_propsUnder_key h n key

/-! ### The keys of siblings -/

/-- The keys of `count` positions from `i` on. -/
def positionKeys (i count : Nat) : List Value :=
  (List.range' i count).map fun j => .string (toString j)

/-- The keys that are no positions. -/
def fixedKeys : List Value := [.string "footnotes", .string "checkbox"]

theorem nodup_positionKeys (i count : Nat) : (positionKeys i count).Nodup := by
  refine (List.nodup_map_iff fun j k same => ?_).2 List.nodup_range'
  exact Nat.repr_inj.1 (Value.string.inj same)

/-- A position is written in digits. -/
theorem not_mem_positionKeys (ch : Char) {s : String} (member : ch ∈ s.toList)
    (other : ch.isDigit = false) (i count : Nat) : .string s ∉ positionKeys i count := by
  intro position
  obtain ⟨j, -, same⟩ := List.mem_map.1 position
  have digits : (toString j).toList = Nat.toDigits 10 j :=
    (congrArg String.toList Nat.repr_eq_ofList_toDigits).trans String.toList_ofList
  rw [← Value.string.inj same, digits] at member
  rw [Nat.isDigit_of_mem_toDigits (by decide) (by decide) member] at other
  cases other

/-- A position is a number, and no fixed key is. -/
theorem nodup_siblingKeys (i count : Nat) : (fixedKeys ++ positionKeys i count).Nodup := by
  rw [fixedKeys, List.cons_append, List.cons_append, List.nil_append, List.nodup_cons,
    List.nodup_cons, List.mem_cons]
  refine ⟨?_, not_mem_positionKeys 'c' (by decide) rfl i count, nodup_positionKeys i count⟩
  rintro (same | member)
  · exact absurd (Value.string.inj same) (by decide)
  · exact not_mem_positionKeys 'f' (by decide) rfl i count member

theorem positionKeys_succ (i count : Nat) :
    positionKeys i (count + 1) = .string (toString i) :: positionKeys (i + 1) count := rfl

/-- A node that is rendered becomes a text or the element of the rewritten node. -/
theorem outline_cases {o : Outline} (made : n.outline key = some o) :
    (∃ s, o = .fixed (.text s)) ∨ o = n.rewritten.ownOutline key := by
  rw [Node.outline_eq] at made
  split at made
  · obtain ⟨s, -, rfl⟩ := Option.map_eq_some_iff.1 made
    exact .inl ⟨s, rfl⟩
  split at made
  · cases made
  · exact .inr (Option.some_inj.1 made).symm

/-- A text has no key, and every element that a node becomes has the key of the node. -/
theorem key?_of_outline (h : NeverSetKey c.overrides) {o : Outline} (made : n.outline key = some o) :
    (∃ s, dress c o = .text s) ∨ (dress c o).key? = some (.string key) := by
  rcases outline_cases made with ⟨s, rfl⟩ | rfl
  · exact .inl ⟨s, rfl⟩
  · exact .inr (key?_ownOutline h _ key)

/-- Nodes that make no element leave gaps. -/
theorem keys_outlines_sublist (h : NeverSetKey c.overrides) (i : Nat) (nodes : List Node) :
    (((Node.outlines i nodes).map (dress c)).filterMap key?).Sublist
      (positionKeys i nodes.length) := by
  induction nodes generalizing i with
  | nil => exact List.Sublist.refl _
  | cons d nodes ih =>
      rw [Node.outlines_cons, List.map_append, List.filterMap_append, List.length_cons,
        positionKeys_succ, ← List.singleton_append]
      refine List.Sublist.append ?_ (ih (i + 1))
      cases made : d.outline (toString i) with
      | none => exact List.nil_sublist _
      | some o =>
        rcases key?_of_outline h made with ⟨s, text⟩ | key
        · simp [text, key?]
        · simp [key]

/-- The keys in the element of a node are positions and perhaps the key of a task's box. -/
theorem childKeys_ownOutline_sublist (h : NeverSetKey c.overrides) (n : Node) (key : String) :
    (dress c (n.ownOutline key)).childKeys.Sublist
      (.string "checkbox" :: positionKeys 0 n.childList.length) := by
  have positions := keys_outlines_sublist h 0 n.childList
  have content : (((n.outlineContent (Node.outlines 0 n.childList)).map (dress c)).filterMap
      key?).Sublist (.string "checkbox" :: positionKeys 0 n.childList.length) := by
    unfold Node.outlineContent
    split
    · exact List.nil_sublist _
    · exact positions.cons _
  rw [Node.ownOutline, dress_element, childKeys, children, Node.outlineBody]
  split
  · simp [key?_innerCode]
  · exact List.nil_sublist _
  · split
    · exact content
    · exact positions.cons_cons _
  · exact content

/-! ### What has no key -/

theorem keyed_of_texts {root : Node} {overrides : Overrides} {tag : Tag} {props : Fields}
    {body : List Markup} (texts : ∀ m ∈ body, ∃ s, m = .text s) :
    (Markup.element tag props body).Keyed root overrides where
  distinct := by
    have none : body.filterMap key? = [] := by
      refine List.filterMap_eq_nil_iff.2 fun m hm => ?_
      obtain ⟨s, rfl⟩ := texts m hm
      rfl
    rw [childKeys, children, none]
    exact List.nodup_nil
  keyless _ _ _ member _ := by
    obtain ⟨s, text⟩ := texts _ member
    cases text

theorem allKeyed_of_texts {root : Node} {overrides : Overrides} {tag : Tag} {props : Fields}
    {body : List Markup} (texts : ∀ m ∈ body, ∃ s, m = .text s) :
    (Markup.element tag props body).AllKeyed root overrides := by
  refine allKeyed_element (keyed_of_texts texts) fun m hm => ?_
  obtain ⟨s, rfl⟩ := texts m hm
  exact allKeyed_text s

theorem mem_outlines {i : Nat} {nodes : List Node} {o : Outline} (h : o ∈ Node.outlines i nodes) :
    ∃ d ∈ nodes, ∃ key, d.outline key = some o := by
  rw [Node.outlines] at h
  obtain ⟨o?, there, h⟩ := List.mem_flatMap.1 h
  obtain ⟨j, hj, rfl⟩ := List.mem_mapIdx.1 there
  exact ⟨nodes[j], List.getElem_mem hj, _, Option.mem_toList.1 h⟩

theorem key_ne_none_of_outlines (h : NeverSetKey c.overrides) {i : Nat} {nodes : List Node}
    {o : Outline} (ho : o ∈ Node.outlines i nodes) {tag : Tag} {props : Fields}
    {body : List Markup} (same : dress c o = .element tag props body) :
    Entries.get? props "key" ≠ none := by
  obtain ⟨d, -, key, made⟩ := mem_outlines ho
  rcases key?_of_outline h made with ⟨s, text⟩ | keyed
  · rw [text] at same
    cases same
  · rw [same, key?] at keyed
    simp [keyed]

theorem mem_outlineBody {children : List Outline} {o : Outline} (h : o ∈ n.outlineBody children) :
    (n.kind = "code" ∧ o = .fixed n.innerCode) ∨ (∃ done, o = .fixed (checkbox done)) ∨
      (∃ s, o = .fixed (.text s)) ∨ o ∈ children := by
  have content (h : o ∈ n.outlineContent children) :
      (∃ s, o = .fixed (.text s)) ∨ o ∈ children := by
    unfold Node.outlineContent at h
    split at h
    · next value _ => exact .inl ⟨value, List.mem_singleton.1 h⟩
    · exact .inr h
  have kind := n.kind_of_handling
  unfold Node.outlineBody at h
  split at h
  · next way => exact .inl ⟨by simpa only [way] using kind, List.mem_singleton.1 h⟩
  · contradiction
  · split at h
    · exact .inr (.inr (content h))
    · next done _ =>
      rcases List.mem_cons.1 h with box | h
      · exact .inr (.inl ⟨done, box⟩)
      · exact .inr (.inr (.inr h))
  · exact .inr (.inr (content h))

/-- Blocks of code that show the same are rendered with the same tag and inner element. -/
theorem exists_block {root : Node} (below : n.codeTexts ⊆ root.codeTexts) (kind : n.kind = "code")
    (overrides : Overrides) :
    ∃ b ∈ root.ofKind "code", n.innerCode = b.innerCode ∧
      n.tagUnder overrides = b.tagUnder overrides := by
  have own : (n.lang, n.value) ∈ n.codeTexts := by
    rw [Node.codeTexts_eq, if_pos kind]
    exact List.mem_cons_self
  obtain ⟨b, block, same⟩ := List.mem_map.1 (below own)
  obtain ⟨lang, value⟩ := Prod.mk.inj same
  have kind' : b.kind = "code" := by simpa [Node.ofKind] using (List.mem_filter.1 block).2
  have pre {d : Node} (kind : d.kind = "code") : d.defaultTag = "pre" :=
    Node.defaultTag_of_get? (by rw [kind]; rfl)
  refine ⟨b, block, ?_, ?_⟩
  · rw [Node.innerCode, Node.innerCode, lang, value]
  · rw [Node.tagUnder, Node.tagUnder, kind, kind', pre kind, pre kind']

/-- An element in the element of a node has a key, unless the node is a block of code. -/
theorem keyed_ownOutline (h : NeverSetKey c.overrides) {root : Node}
    (below : n.codeTexts ⊆ root.codeTexts) (key : String) :
    (dress c (n.ownOutline key)).Keyed root c.overrides where
  distinct := by
    have all := (childKeys_ownOutline_sublist h n key).nodup
    exact all (List.nodup_cons.1 (nodup_siblingKeys 0 n.childList.length)).2
  keyless tag props body member none := by
    rw [Node.ownOutline, dress_element] at member ⊢
    obtain ⟨o, ho, same⟩ := List.mem_map.1 member
    rcases mem_outlineBody ho with ⟨kind, rfl⟩ | ⟨done, rfl⟩ | ⟨s, rfl⟩ | child
    · obtain ⟨b, block, inner, outer⟩ := exists_block below kind c.overrides
      have way : n.handling = .code := by simp [Node.handling, Handling.ofKind, kind]
      refine ⟨b, block, same.symm.trans inner, n.propsUnder c key, [], ?_⟩
      rw [Node.outlineBody, way, outer, ← inner]
      rfl
    · cases same
      cases none
    · cases same
    · exact absurd none (key_ne_none_of_outlines h child same)

theorem codeTexts_rewritten_subset (n : Node) : n.rewritten.codeTexts ⊆ n.codeTexts := by
  have lang : n.rewritten.lang = n.lang := by
    rcases n.rewritten_eq with h | ⟨cs, h⟩ <;> rw [h]
    rfl
  rw [Node.codeTexts_eq n.rewritten, n.kind_rewritten, lang, n.value_rewritten]
  refine List.append_subset.2 ⟨?_, fun x hx => ?_⟩
  · rw [Node.codeTexts_eq]
    exact List.subset_append_left _ _
  · obtain ⟨d, hd, hx⟩ := List.mem_flatMap.1 hx
    exact Node.codeTexts_subset_of_rewritten hd hx

/-- By induction on the weight: what is inside of the element of a node is one of a few fixed trees
or the outline of a child of the rewritten node. -/
theorem allKeyed_of_outline (h : NeverSetKey c.overrides) {root : Node}
    (below : n.codeTexts ⊆ root.codeTexts) {o : Outline} (made : n.outline key = some o) :
    (dress c o).AllKeyed root c.overrides := by
  induction hw : n.weight using Nat.strongRecOn generalizing n key o with
  | ind w ih =>
      rcases outline_cases made with ⟨s, rfl⟩ | rfl
      · exact allKeyed_text s
      have own := keyed_ownOutline h (List.Subset.trans (codeTexts_rewritten_subset n) below) key
      rw [Node.ownOutline, dress_element] at own ⊢
      refine allKeyed_element own fun m hm => ?_
      obtain ⟨o, ho, rfl⟩ := List.mem_map.1 hm
      rcases mem_outlineBody ho with ⟨-, rfl⟩ | ⟨done, rfl⟩ | ⟨s, rfl⟩ | child
      · exact allKeyed_of_texts fun m hm => ⟨_, List.mem_singleton.1 hm⟩
      · exact allKeyed_of_texts fun m hm => absurd hm List.not_mem_nil
      · exact allKeyed_text s
      · obtain ⟨d, hd, key, made⟩ := mem_outlines child
        refine ih d.weight (hw ▸ Node.weight_lt_of_mem_rewritten hd) ?_ made rfl
        exact fun _ hx => below (Node.codeTexts_subset_of_rewritten hd hx)

/-! ### Footnotes -/

/-- An element that holds what several nodes become: its children have the keys of the positions. -/
theorem allKeyed_outlines (h : NeverSetKey c.overrides) {root : Node} (tag : Tag) (props : Fields)
    {nodes : List Node} (below : ∀ d ∈ nodes, d.codeTexts ⊆ root.codeTexts) :
    (Markup.element tag props ((Node.outlines 0 nodes).map (dress c))).AllKeyed root
      c.overrides := by
  refine allKeyed_element ⟨?_, fun _ _ _ member none => ?_⟩ fun m hm => ?_
  · exact (keys_outlines_sublist h 0 nodes).nodup (nodup_positionKeys 0 nodes.length)
  · obtain ⟨o, ho, same⟩ := List.mem_map.1 member
    exact absurd none (key_ne_none_of_outlines h ho same)
  · obtain ⟨o, ho, rfl⟩ := List.mem_map.1 hm
    obtain ⟨d, hd, key, made⟩ := mem_outlines ho
    exact allKeyed_of_outline h (below d hd) made

/-- A footnote as a child of the element that holds the footnotes. -/
structure FootnoteKeyed (root : Node) (overrides : Overrides) (f : Node) (m : Markup) : Prop where
  key : m.key? = some (.ofString? f.identifier)
  inside : m.AllKeyed root overrides

theorem footnoteKeyed_of_yields (h : NeverSetKey c.overrides) {root f : Node}
    (below : ∀ d ∈ f.childList, d.codeTexts ⊆ root.codeTexts) {m : Markup}
    (made : Yields (References.renderFootnote c f) m) : FootnoteKeyed root c.overrides f m := by
  obtain ⟨body, filled, result⟩ := yields_of_bind made
  obtain rfl := eq_of_yields_pure result
  refine ⟨rfl, ?_⟩
  unfold References.footnoteBody at filled
  split at filled
  · obtain rfl := eq_of_yields_pure filled
    exact allKeyed_of_texts fun m hm => ⟨_, List.mem_singleton.1 hm⟩
  · have outlines : Ensures (convertEach c 0 f.childList)
        (· = (Node.outlines 0 f.childList).map (dress c)) :=
      ensures_outlines fun frames key d _ => ensures_outline c frames d key
    rw [outlines.of_yields filled]
    exact allKeyed_outlines h _ _ below

/-- The children of a footnote hold no code that is not in the document. -/
theorem codeTexts_subset_of_labelled {root f d : Node} (shown : f ∈ root.shownFootnotes)
    (hd : d ∈ (Gathered.labelled f).childList) : d.codeTexts ⊆ root.codeTexts := by
  have there : f ∈ root.footnoteNodes := Entries.mem_of_mem_lastOfEach shown
  have inside : f ∈ root.preorder := (List.mem_filter.1 there).1
  exact List.Subset.trans (Node.gathers_codeTexts.subset_of_labelled hd)
    (Node.gathers_codeTexts.subset_of_mem_preorder inside)

theorem keys_of_footnotes {root : Node} {overrides : Overrides} {fs : List Node}
    {ms : List Markup} {i : Nat}
    (h : Each (fun _ f m => FootnoteKeyed root overrides f m) i fs ms) :
    ms.filterMap key? = fs.map fun f => .ofString? f.identifier := by
  induction h with
  | nil => rfl
  | cons head _ ih => rw [List.filterMap_cons_some head.key, ih, List.map_cons]

theorem ofString?_injective : Function.Injective Value.ofString? := by
  intro s t same
  cases s <;> cases t <;> simp_all

/-- The element of the footnotes has one child for every identifier. -/
theorem allKeyed_footer {root : Node} {overrides : Overrides} (settings : Settings)
    {ms : List Markup} (h : Each (fun _ f m => FootnoteKeyed root overrides f m) 0
      (root.shownFootnotes.map Gathered.labelled) ms) :
    (Rendering.footer settings ms).AllKeyed root overrides := by
  have keyed {m : Markup} (hm : m ∈ ms) : ∃ f, FootnoteKeyed root overrides f m := by
    obtain ⟨_, f, _, keyed⟩ := h.exists_of_mem hm
    exact ⟨f, keyed⟩
  refine allKeyed_element ⟨?_, fun tag props body member none => ?_⟩ fun m hm => ?_
  · rw [childKeys, children, keys_of_footnotes h, List.map_map]
    have identifiers : (root.shownFootnotes.map Node.identifier).Nodup := by
      rw [Node.shownFootnotes, Entries.map_lastOfEach]
      exact Entries.nodup_distinct _
    have same : (fun f : Node => Value.ofString? f.identifier) ∘ Gathered.labelled =
        Value.ofString? ∘ Node.identifier := by
      funext f
      simp [Gathered.identifier_labelled]
    rw [same, ← List.map_map]
    exact identifiers.map ofString?_injective
  · obtain ⟨f, keyed⟩ := keyed member
    have key := keyed.key
    rw [key?, none] at key
    cases key
  · obtain ⟨f, keyed⟩ := keyed hm
    exact keyed.inside

/-- The element of the footnotes becomes the last child of the element of a node: its key is no
position and not that of a task's box. -/
theorem keyed_withFooter (h : NeverSetKey c.overrides) {root : Node} {tag : Tag} {props : Fields}
    {body : List Markup} (made : dress c (n.ownOutline key) = .element tag props body)
    (own : (Markup.element tag props body).Keyed root c.overrides) (settings : Settings)
    (ms : List Markup) :
    (Markup.element tag props (body ++ [Rendering.footer settings ms])).Keyed root c.overrides where
  distinct := by
    have keys := childKeys_ownOutline_sublist h n key
    rw [made, childKeys, children] at keys
    have last : ((body ++ [Rendering.footer settings ms]).filterMap key?).Perm
        (.string "footnotes" :: body.filterMap key?) := by
      rw [List.filterMap_append]
      exact List.perm_append_singleton _ _
    rw [childKeys, children, last.nodup_iff]
    exact (keys.cons_cons _).nodup (nodup_siblingKeys 0 n.childList.length)
  keyless t fields inside member none := by
    rcases List.mem_append.1 member with member | member
    · obtain ⟨b, block, inner, outer, rest, same⟩ := own.keyless t fields inside member none
      injection same with tag props body
      refine ⟨b, block, inner, outer, rest ++ [Rendering.footer settings ms], ?_⟩
      rw [tag, props, body, List.cons_append]
    · cases List.mem_singleton.1 member
      cases none

end Conversion

namespace Rendering

open Conversion Markup

/-- If no override sets keys, the siblings in a rendered document have different keys, and the only
elements without a key are the inner elements of its blocks of code. -/
theorem siblings_keyed_apart {overrides : Overrides} (h : NeverSetKey overrides) (n : Node)
    (settings : Settings) (stackLimit : Option Nat) {m : Markup}
    (run : (start (renderTree n overrides settings stackLimit)).1 = .ok (some m)) :
    (∀ tag props body, m = .element tag props body →
      Entries.get? props "key" = some (.string "0")) ∧
      ∀ p ∈ m.trees, p.Keyed n overrides := by
  obtain ⟨q, run⟩ := start_fst_eq.1 run
  rw [References.renderTree_eq] at run
  obtain ⟨ms, p, rendered, rest⟩ := bind_eq_ok.1 run
  obtain ⟨root, p', converted, last⟩ := bind_eq_ok.1 rest
  obtain ⟨result, -⟩ := Prod.mk.inj last
  have result := Except.ok.inj result
  let c := References.contextFor n overrides settings stackLimit
  have made := ensures_outline c 0 n "0" _ _ _ converted
  have footnotes : Each (fun _ f m => FootnoteKeyed n overrides f m) 0
      (n.shownFootnotes.map Gathered.labelled) ms := by
    refine (References.each_start_of_renderFootnotes rendered).mono fun _ f m member started => ?_
    obtain ⟨q, ran⟩ := start_fst_eq.1 started
    obtain ⟨f, shown, rfl⟩ := List.mem_map.1 member
    exact footnoteKeyed_of_yields (c := c) h (fun d hd => codeTexts_subset_of_labelled shown hd)
      ⟨_, _, ran⟩
  cases outline : n.outline "0" with
  | none =>
    rw [made, outline] at result
    cases result
  | some o =>
    rw [made, outline, Option.map_some] at result
    have all := allKeyed_of_outline (c := c) h (List.Subset.refl _) outline
    rcases outline_cases outline with ⟨s, rfl⟩ | rfl
    · cases result
      exact ⟨nofun, allKeyed_text s⟩
    have key := key?_ownOutline (c := c) h n.rewritten "0"
    rcases element : Outline.dress c (n.rewritten.ownOutline "0") with s | ⟨tag, props, body⟩
    · rw [element] at key
      cases key
    rw [element] at key all result
    rcases withFootnotes_element result with rfl | rfl
    · exact ⟨by rintro _ _ _ ⟨⟩; exact key, all⟩
    · refine ⟨by rintro _ _ _ ⟨⟩; exact key, allKeyed_element ?_ fun m hm => ?_⟩
      · exact keyed_withFooter (c := c) h element all.own settings ms
      · rcases List.mem_append.1 hm with hm | hm
        · exact all.child hm
        · exact List.mem_singleton.1 hm ▸ allKeyed_footer settings footnotes

/-- Blocks of code get another tag, and paragraphs are numbered. -/
def captioned : Overrides :=
  [("code", { component := some (.name "figure"), props := [("id", .string "key")] }),
    ("paragraph", { dynamicProps := some fun n => .ok [("n", .int n.childList.length)] })]

theorem neverSetKey_captioned : NeverSetKey captioned := by
  intro kind o own
  have member := Entries.mem_of_get? own
  simp only [captioned, List.mem_cons, Prod.mk.injEq, List.not_mem_nil, or_false] at member
  rcases member with ⟨-, rfl⟩ | ⟨-, rfl⟩
  · exact ⟨by decide, nofun⟩
  · refine ⟨by decide, ?_⟩
    rintro f ⟨⟩ n fields ⟨⟩
    simp

/-- A task with a block of code behind a definition, and footnotes of which two have no name. -/
def crowded : Node :=
  let footnote (identifier : Option String) : Node :=
    { Node.branch "footnoteDefinition" [.branch "paragraph" [.leaf "text" "note"]] with identifier }
  .branch "root" [
    { kind := "definition", identifier := some "a" },
    { Node.branch "listItem" [.branch "paragraph" [], .leaf "code" "x"] with checked := some true },
    footnote none,
    footnote (some "1"),
    .branch "paragraph" [footnote none, .leaf "text" "end"]]

/-- The definition and the footnotes leave gaps. -/
theorem crowded_keyed_apart :
    NeverSetKey captioned ∧ ∃ m, (start (renderTree crowded captioned {})).1 = .ok (some m) ∧
      m.childKeys.map Value.text = ["1", "4", "footnotes"] ∧
      ∀ p ∈ m.trees, p.Keyed crowded captioned := by
  have keys : (start (renderTree crowded captioned {})).1.toOption.join.map
      (fun m => m.childKeys.map Value.text) = some ["1", "4", "footnotes"] := by
    decide +kernel
  refine ⟨neverSetKey_captioned, ?_⟩
  rcases run : (start (renderTree crowded captioned {})).1 with e | (_ | m) <;> rw [run] at keys
  · cases keys
  · cases keys
  · obtain ⟨-, keyed⟩ := siblings_keyed_apart neverSetKey_captioned crowded {} usualStackLimit run
    exact ⟨m, rfl, Option.some_inj.1 keys, keyed⟩

end Rendering

end MarkdownTree
