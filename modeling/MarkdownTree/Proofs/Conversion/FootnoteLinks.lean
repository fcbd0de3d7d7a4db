import MarkdownTree.Proofs.Conversion.Elements
import MarkdownTree.Proofs.Node.Kinds

/-!
# Where links to footnotes come from

Without overrides, no element has a key and a target and nothing else but the one that a
reference to a footnote is rendered as. `exists_reference_of_link` follows such an element from
the result of a conversion down to the node that it was made of.
-/

namespace MarkdownTree

namespace Markup

mutual

/-- All trees in a tree, itself first. -/
def trees : Markup → List Markup
  | .text s => [.text s]
  | .element tag props children => .element tag props children :: treesOfAll children

/-- All trees in several trees. -/
def treesOfAll : List Markup → List Markup
  | [] => []
  | m :: ms => trees m ++ treesOfAll ms

end

theorem mem_treesOfAll {ms : List Markup} {e : Markup} :
    e ∈ treesOfAll ms ↔ ∃ m ∈ ms, e ∈ m.trees := by
  induction ms with
  | nil => simp [treesOfAll]
  | cons m ms ih => simp [treesOfAll, ih]

/-- The element of a reference to a footnote: a link with a key and the given target. -/
def IsFootnoteLink (href : String) (m : Markup) : Prop :=
  ∃ key children,
    m = .element (.name "a") [("key", .string key), ("href", .string href)] children

/-- No link to a footnote is in the tree. -/
def Linkless (m : Markup) : Prop := ∀ e ∈ m.trees, ∀ href, ¬ e.IsFootnoteLink href

theorem linkless_text (s : String) : Linkless (.text s) := by
  intro e he href
  rw [trees, List.mem_singleton] at he
  rintro ⟨_, _, rfl⟩
  contradiction

theorem linkless_element {tag : Tag} {props : Fields} {children : List Markup}
    (own : ∀ k v, props ≠ [("key", k), ("href", v)]) (each : ∀ m ∈ children, m.Linkless) :
    Linkless (.element tag props children) := by
  intro e he href
  rw [trees, List.mem_cons, mem_treesOfAll] at he
  rcases he with rfl | ⟨m, hm, he⟩
  · rintro ⟨_, _, same⟩
    injection same with _ same _
    exact own _ _ same
  · exact each m hm e he href

end Markup

namespace Conversion

open Markup

variable {c : Context} {n : Node} {key : String} {m : Markup} {props : Fields}

/-- Only references to footnotes have a key and a target and nothing else. -/
theorem kind_of_link (ho : c.overrides = []) (h : Yields (propsOf c n key) props) {k v : Value}
    (link : props = [("key", k), ("href", v)]) : n.kind = "footnoteReference" := by
  obtain ⟨computed, hc, rfl⟩ := props_eq_merge ho h
  revert link
  refine Ensures.of_yields (P := fun computed => Entries.merge [("key", .string key)] computed =
    [("key", k), ("href", v)] → n.kind = "footnoteReference") ?_ hc
  unfold computedProps
  split
  · next kind => exact .pure fun _ => kind
  split
  · exact .pure (by simp [Entries.merge, Entries.set])
  split
  · exact .seq fun _ => .pure (by simp [Entries.merge, Entries.set])
  split
  · exact .pure (by simp [Entries.merge, Entries.set])
  split
  · exact .seq fun _ => .pure (by simp [Entries.merge, Entries.set])
  split
  · exact .pure (by simp [Entries.merge, Entries.set])
  split
  · exact .pure (by simp [Entries.merge, Entries.set])
  · exact .pure (by simp [Entries.merge])

/-- What is made of the children of a rewritten node, or holds no link to a footnote. -/
def FromChildren (c : Context) (n : Node) (body : List Markup) : Prop :=
  ∀ m ∈ body, m.Linkless ∨ ∃ d ∈ n.rewritten.childList, ∃ key, Gives c key d (some m)

/-- What the markup of a node consists of, as far as links to footnotes go: its own props are
those of a link only for a reference, and its children hold no such link or are made of children
of the rewritten node. -/
inductive Rendered (c : Context) (n : Node) : Markup → Prop
  | text (s : String) : Rendered c n (.text s)
  | element {tag : Tag} {props : Fields} {body : List Markup}
      (own : ∀ k v, props = [("key", k), ("href", v)] → n.kind = "footnoteReference")
      (children : FromChildren c n body) : Rendered c n (.element tag props body)

theorem fromChildren_text (s : String) : FromChildren c n [.text s] := by
  intro m hm
  obtain rfl := List.mem_singleton.1 hm
  exact .inl (linkless_text s)

/-- What several nodes are converted to is made of them one by one. -/
theorem ensures_convertEach (frames : Nat) (nodes : List Node) :
    Ensures (convertEach c frames nodes) fun ms =>
      ∀ m ∈ ms, ∃ d ∈ nodes, ∃ key, Gives c key d (some m) := by
  refine (Ensures.collectEach fun j d _ => Ensures.yields (convert c frames d (toString j))).mono ?_
  rintro ms ⟨found, each, rfl⟩ m hm
  obtain ⟨m?, there, hm⟩ := List.mem_flatMap.1 hm
  obtain ⟨j, d, hd, given⟩ := each.exists_of_mem there
  obtain rfl := Option.mem_toList.1 hm
  exact ⟨d, hd, toString j, frames, given⟩

theorem ensures_fromChildren (frames : Nat) :
    Ensures (convertEach c frames n.rewritten.childList) (FromChildren c n) :=
  (ensures_convertEach frames _).mono fun _ each m hm => .inr (each m hm)

theorem ensures_content {n' : Node} {children : Conversion (List Markup)}
    (h : Ensures children (FromChildren c n)) :
    Ensures (content n' children) (FromChildren c n) := by
  unfold content
  split
  · exact .pure (fromChildren_text _)
  · next d _ _ =>
    split
    · refine .pure fun m hm => ?_
      obtain ⟨s, -, rfl⟩ := Option.map_eq_some_iff.1 (Option.mem_toList.1 hm)
      exact .inl (linkless_text s)
    · exact h
  · exact h

theorem ensures_rendered_generic (ho : c.overrides = []) {n' : Node} (kind : n'.kind = n.kind)
    {children : Conversion (List Markup)} (h : Ensures children (FromChildren c n)) (frames : Nat) :
    Ensures (generic c frames n' key children) fun m? => ∀ m ∈ m?, Rendered c n m := by
  unfold generic
  refine .seq fun _ => ?_
  split
  · exact .pure nofun
  · refine .bind (ensures_content h) fun body each => .bind (.yields _) fun props made => .pure ?_
    rintro _ ⟨⟩
    exact .element (fun k v link => kind ▸ kind_of_link ho made link) each

theorem ensures_rendered_code (ho : c.overrides = []) :
    Ensures (code c n key) fun m? => ∀ m ∈ m?, Rendered c n m := by
  refine .bind (.yields _) fun props made => .pure fun m hm => ?_
  obtain ⟨tag, -, rfl⟩ := Option.map_eq_some_iff.1 hm
  refine .element (fun k v => kind_of_link ho made) fun m hm => .inl ?_
  obtain rfl := List.mem_singleton.1 hm
  refine linkless_element (fun k v => ?_) fun m hm => ?_
  · split <;> simp
  · exact List.mem_singleton.1 hm ▸ linkless_text _

/-- The HTML that a node stands for is a prop of its own, which no link has. -/
theorem ensures_rendered_rawHtml :
    Ensures (rawHtml c n key) fun m? => ∀ m ∈ m?, Rendered c n m := by
  refine .bind (.yields _) fun props made => .pure fun m hm => ?_
  obtain ⟨tag, -, rfl⟩ := Option.map_eq_some_iff.1 hm
  refine .element (fun k v link => ?_) nofun
  have keys : Entries.keys (Entries.set props "innerHTML" (.string (n.value.getD ""))) =
      ["key", "href"] := by rw [link]; rfl
  rw [Entries.keys_set] at keys
  split at keys
  · next there => simp [keys] at there
  · have last := congrArg List.getLast? keys
    simp at last

theorem ensures_rendered_task (ho : c.overrides = []) {done : Bool}
    {children : Conversion (List Markup)} (h : Ensures children (FromChildren c n)) :
    Ensures (task c n key done children) fun m? => ∀ m ∈ m?, Rendered c n m := by
  refine .bind (.yields _) fun props made => .bind h fun body each => .pure fun m hm => ?_
  obtain ⟨tag, -, rfl⟩ := Option.map_eq_some_iff.1 hm
  refine .element (fun k v => kind_of_link ho made) fun m hm => ?_
  rcases List.mem_cons.1 hm with rfl | hm
  · exact .inl (linkless_element (by simp) nofun)
  · exact each m hm

/-- One case for each way of handling a node. -/
theorem ensures_rendered (ho : c.overrides = []) (frames : Nat) :
    Ensures (convert c frames n key) fun m? => ∀ m ∈ m?, Rendered c n m := by
  rw [convert_eq]
  refine .seq fun _ => ?_
  split
  · refine .pure fun m hm => ?_
    obtain ⟨s, -, rfl⟩ := Option.map_eq_some_iff.1 hm
    exact .text s
  refine .within _ ?_
  unfold render
  refine .seq fun _ => ?_
  split
  · exact ensures_rendered_generic ho rfl (ensures_fromChildren _) _
  · exact .seq fun _ => ensures_rendered_code ho
  · exact .seq fun _ => ensures_rendered_rawHtml
  · refine .seq fun _ => ?_
    split
    · exact ensures_rendered_generic ho rfl (ensures_fromChildren _) _
    · exact ensures_rendered_task ho (ensures_fromChildren _)
  · exact .seq fun _ => ensures_rendered_generic ho n.kind_rewritten (ensures_fromChildren _) _

/-- Every link to a footnote in what a node is converted to was made of a reference below it. -/
theorem exists_reference_of_link (ho : c.overrides = []) {n : Node} (closed : n.ReferencesClosed)
    {key : String} {m : Markup} (hm : Gives c key n (some m)) {e : Markup} (he : e ∈ m.trees)
    {href : String} (link : e.IsFootnoteLink href) :
    ∃ r ∈ n.references, ∃ key, Gives c key r (some e) := by
  obtain ⟨frames, made⟩ := hm
  cases (ensures_rendered ho frames).of_yields made m rfl with
  | text s => exact absurd link (linkless_text s e he href)
  | @element tag props body own children =>
    rw [trees, List.mem_cons, mem_treesOfAll] at he
    rcases he with rfl | ⟨m, hm, he⟩
    · obtain ⟨_, _, same⟩ := link
      injection same with _ same _
      refine ⟨n, ?_, key, frames, made⟩
      rw [Node.references, Node.ofKind_eq, if_pos (own _ _ same)]
      exact List.mem_append_left _ List.mem_cons_self
    · rcases children m hm with none | ⟨d, hd, key, given⟩
      · exact absurd link (none e he href)
      · have closedChild : d.ReferencesClosed :=
          fun r hr => closed r (Node.mem_references_of_rewritten closed hd hr)
        obtain ⟨r, hr, found⟩ := exists_reference_of_link ho closedChild given he link
        exact ⟨r, Node.mem_references_of_rewritten closed hd hr, found⟩
termination_by n.weight
decreasing_by exact Node.weight_lt_of_mem_rewritten hd

/-- A reference to a footnote is rendered as a link to what it names. -/
theorem isFootnoteLink_of_gives (ho : c.overrides = []) {s : String}
    (kind : n.kind = "footnoteReference") (names : n.identifier = some s)
    (hm : Gives c key n (some m)) : m.IsFootnoteLink ("#" ++ s) := by
  have generic : n.IsGeneric := by
    constructor <;> simp [Node.isText, Node.isUnrendered, Node.handling, Handling.ofKind, kind]
  have rewritten : n.rewritten = n.withChildren [n.footnoteMark] := by
    simp [Node.rewritten, Node.handling, Handling.ofKind, kind]
  obtain ⟨frames, made⟩ := hm
  obtain ⟨props, body, same, hp, -⟩ := (ensures_assembled ho generic frames).of_yields made
  obtain ⟨computed, hc, rfl⟩ := props_eq_merge ho hp
  have target : computedProps c n.rewritten = pure [("href", .string ("#" ++ s))] := by
    rw [rewritten, computedProps, if_pos (by simpa using kind)]
    simp [Node.withChildren, names]
  rw [target] at hc
  rw [eq_of_yields_pure hc] at same
  have tag : n.rewritten.defaultTag = "a" :=
    Node.defaultTag_of_get? (by rw [Node.kind_rewritten, kind]; rfl)
  rw [tag] at same
  exact ⟨key, body, Option.some_inj.1 same⟩

end Conversion

end MarkdownTree
