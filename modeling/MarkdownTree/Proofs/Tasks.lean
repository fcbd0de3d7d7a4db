import MarkdownTree.Proofs.Conversion.Results
import MarkdownTree.Proofs.Syntax.Tasks

/-!
# Tasks

A list item with a box in front of its text becomes a node that says whether the box is ticked, and
this node is converted to an element with a check box in front of its children.

Tasks have a conversion of their own, which makes the props before the children and takes no text as
it is. `convert_item` shows that this makes no difference: both ways of converting list items come
to one element, whose children are what the nodes of the item are converted to.
-/

namespace MarkdownTree

namespace Conversion

variable {c : Context} {n : Node} {key : String} {frames : Nat}

/-- The overrides compute no props for list items. -/
def StaticItems (overrides : Overrides) : Prop :=
  ∀ o, Entries.get? overrides "listItem" = some o → o.dynamicProps = none

theorem propsOf_item (static : StaticItems c.overrides) (kind : n.kind = "listItem") :
    propsOf c n key = pure (Entries.merge [("key", .string key)] (n.staticFields c.overrides)) := by
  have computed : computedProps c n = pure [] := by simp [computedProps, Node.isCell, kind]
  rw [propsOf, computed, pure_bind, Node.staticFields, kind]
  cases own : Entries.get? c.overrides "listItem" with
  | none => rfl
  | some o =>
    simp only [dynamicProps, static o own]
    rfl

/-- The boxes in front of the children of a list item: one if it is a task. -/
def boxes (checked : Option Bool) : List Markup := checked.toList.map checkbox

/-- The element of a list item with a box in front of its children. -/
def withBoxes (checked : Option Bool) : Markup → Markup
  | .element tag props body => .element tag props (boxes checked ++ body)
  | m => m

/-- The element of a list item with the given children, behind the box of a task. -/
def itemElement (c : Context) (n : Node) (key : String) (body : List Markup) : Markup :=
  .element (n.tagUnder c.overrides)
    (Entries.merge [("key", .string key)] (n.staticFields c.overrides)) (boxes n.checked ++ body)

/-- Tasks and other list items are converted in different ways, but to the same element, up to the
box. -/
theorem convert_item (static : StaticItems c.overrides)
    (room : ∀ limit ∈ c.stackLimit, frames + 3 ≤ limit) (kind : n.kind = "listItem")
    (value : n.value = none) :
    convert c frames n key = within c.settings.maxDepth
      ((fun body => some (itemElement c n key body)) <$>
        convertEach c (frames + 3) n.childList) := by
  have calls (k : Nat) (low : k ≤ 3) : call c (frames + k) = pure () :=
    call_of_room fun limit hl => Nat.le_trans (by omega) (room limit hl)
  have handling : n.handling = .listItem := by simp [Node.handling, Handling.ofKind, kind]
  have text : n.isText = false := by simp [Node.isText, kind]
  have shown : n.isUnrendered = false := by simp [Node.isUnrendered, kind]
  have between : callsBetween n = 3 := by rw [callsBetween, handling]
  have rewritten : n.rewritten = n := by simp only [Node.rewritten, handling]
  rw [convert_eq, show call c frames = pure () from calls 0 (by omega), pure_bind, text, between,
    rewritten, if_neg (by decide), render, calls 1 (by omega), pure_bind, handling]
  dsimp only
  rw [calls 2 (by omega), pure_bind]
  cases checked : n.checked with
  | none =>
    dsimp only
    rw [generic, Nat.add_assoc, calls 3 (by omega), pure_bind, tag?_eq_tagUnder shown,
      content_eq_children room value, propsOf_item static kind]
    simp [itemElement, boxes, checked]
  | some done =>
    dsimp only
    rw [task, propsOf_item static kind, pure_bind, tag?_eq_tagUnder shown]
    simp [itemElement, boxes, checked, element?]

/-- So the outcome for a list item is that without a box, with the box put in front. -/
theorem convert_item_eq_map (static : StaticItems c.overrides)
    (room : ∀ limit ∈ c.stackLimit, frames + 3 ≤ limit) (kind : n.kind = "listItem")
    (value : n.value = none) :
    convert c frames n key =
      Option.map (withBoxes n.checked) <$> convert c frames { n with checked := none } key := by
  rw [convert_item static room kind value,
    convert_item (n := { n with checked := none }) static room kind value, ← within_map]
  simp [itemElement, withBoxes, boxes]
  rfl

/-- The children of the element are what the children of the item are converted to. -/
theorem ensures_item (static : StaticItems c.overrides)
    (room : ∀ limit ∈ c.stackLimit, frames + 3 ≤ limit) (kind : n.kind = "listItem")
    (value : n.value = none) :
    Ensures (convert c frames n key) fun m? =>
      ∃ body, m? = some (itemElement c n key body) ∧ ConvertTo c n.childList body := by
  rw [convert_item static room kind value, ← bind_pure_comp]
  exact .within _ (.bind (.yields _) fun body made => .pure ⟨body, rfl, convertTo_of_yields made⟩)

end Conversion

namespace Syntax

open Conversion

variable {position : Bool} {t : Tree} {ns : List Node}

/-- List items become tasks if they begin with a box, and lose the box and nothing else. The node
of a list item is converted like that of one without a box, if this has no failure: to a list item
with what its nodes are converted to, and for a task with one disabled check box in front. It fails
for the same reasons, and gives the same warnings. -/
theorem tasks_checked (item : t.kind = "list_item")
    (children : buildAll position t.children = .ok ns) :
    ∃ n, build position t = .ok [n] ∧
      n = { kind := "listItem", checked := n.checked, children := some n.childList,
            position := placeOf position t.lines } ∧
      (∀ c rest p m ms later, BeginsWithBox ns c rest p m ms later →
        n.checked = some (decide (c ≠ ' ')) ∧
          n.childList = p.withChildren ({ m with value := some rest } :: ms) :: later) ∧
      ((∀ c rest p m ms later, ¬BeginsWithBox ns c rest p m ms later) →
        n.checked = none ∧ n.childList = ns) ∧
      ∀ (ctx : Context) (key : Option String), StaticItems ctx.overrides →
        (∀ limit ∈ ctx.stackLimit, 3 ≤ limit) →
        let run (n : Node) := (Converter.convert { context := ctx } n key).1
        let tag := ((Entries.get? ctx.overrides "listItem").bind Override.tag?).getD (.name "li")
        let box (done : Bool) : Markup := .element (.name "input")
          [("key", .string "checkbox"), ("type", .string "checkbox"), ("checked", .bool done),
            ("disabled", .bool true)] []
        (run n).2 = (run { n with checked := none }).2 ∧
          (match (run { n with checked := none }).1 with
          | .ok m? => ∃ props body, m? = some (.element tag props body) ∧
              (run n).1 = .ok (some (.element tag props (n.checked.toList.map box ++ body))) ∧
              ConvertTo ctx n.childList body
          | .error e => (run n).1 = .error e ∧ Cause ctx e ∧ e ≠ .stackExhausted) ∧
          (ctx.Tolerant → n.need ≤ ctx.settings.maxDepth → ∃ m?, (run n).1 = .ok m?) := by
  let n : Node :=
    { kind := "listItem", checked := (takeTask ns).1, children := some (takeTask ns).2,
      position := placeOf position t.lines }
  refine ⟨n, ?_, rfl, ?_, ?_, ?_⟩
  · rw [build_item item, children]
    rfl
  · intro c rest p m ms later box
    have taken := takeTask_of_box box
    exact ⟨congrArg Prod.fst taken, congrArg Prod.snd taken⟩
  · intro plain
    have same := takeTask_of_no_box plain
    exact ⟨congrArg Prod.fst same, congrArg Prod.snd same⟩
  · intro ctx key static room run tag box
    have room : ∀ limit ∈ ctx.stackLimit, 0 + 3 ≤ limit := by simpa using room
    have converted : run n =
        ((run { n with checked := none }).1.map (Option.map (withBoxes n.checked)),
          (run { n with checked := none }).2) := by
      have same : convert ctx 0 n (key.getD "0") = _ :=
        convert_item_eq_map static room (n := n) rfl rfl
      exact (congrArg start same).trans (start_map _ _)
    refine ⟨by rw [converted], ?_, fun tolerant fits => exists_ok_of_tolerant tolerant fits key⟩
    rw [converted]
    split
    · next m? outcome =>
      obtain ⟨q, made⟩ := start_fst_eq.1 outcome
      obtain ⟨body, rfl, content⟩ :=
        ensures_item (n := { n with checked := none }) static room rfl rfl _ _ _ made
      exact ⟨_, body, rfl, by rw [outcome]; rfl, content⟩
    · next e outcome =>
      obtain ⟨cause, reported⟩ := cause_of_convert ctx { n with checked := none } key outcome
      exact ⟨by rw [outcome]; rfl, cause, reported⟩

/-- A list item whose box is cut off by a line break. -/
def brokenItem : Tree :=
  let around (kind : String) (children : List Tree) : Tree := { kind, children }
  let text (s : String) : Tree := { kind := "text", content := some s }
  around "list_item" [around "paragraph" [around "inline" [text "[x", text "]",
    around "softbreak" [], text " done"]]]

theorem buildAll_brokenItem : buildAll false brokenItem.children =
    .ok [.branch "paragraph" [.leaf "text" "[x]\n done"]] := by
  cbv

theorem brokenItem_checked :
    buildAll false brokenItem.children =
        .ok [.branch "paragraph" [.leaf "text" "[x]\n done"]] ∧
      ∃ n, build false brokenItem = .ok [n] ∧ n.checked = some true ∧
        n.childList = [.branch "paragraph" [.leaf "text" "done"]] ∧
        ∃ props body, (Converter.convert { context := { stackLimit := none } } n none).1.1 =
          .ok (some (.element (.name "li") props (checkbox true :: body))) := by
  have children := buildAll_brokenItem
  obtain ⟨n, built, shape, marked, _, converted⟩ := tasks_checked rfl children
  have blank : ∀ b ∈ ['\n', ' '], Text.isBlank b = true :=
    List.forall_mem_cons.2 ⟨rfl, List.forall_mem_singleton.2 rfl⟩
  have start : ∀ b ∈ "done".toList.head?, Text.isBlank b = false := by
    rw [show "done".toList.head? = some 'd' by decide]
    rintro b ⟨⟩
    rfl
  have boxed : Boxed "[x]\n done" 'x' "done" :=
    ⟨.inr (.inl rfl), ⟨_, by decide, List.cons_ne_nil _ _, blank⟩, start⟩
  obtain ⟨checked, childList⟩ :=
    marked 'x' "done" _ _ _ _ ⟨rfl, rfl, rfl, rfl, "[x]\n done", rfl, boxed⟩
  obtain ⟨_, outcome, fits⟩ := converted { stackLimit := none } none
    (fun _ own => by cases own) (fun _ limited => by cases limited)
  refine ⟨children, n, built, checked, childList, ?_⟩
  have fit : n.need ≤ Settings.maxDepth {} := by
    rw [shape, checked, childList]
    decide +kernel
  obtain ⟨m?, ok⟩ := fits tolerant_unlimited fit
  split at outcome
  · obtain ⟨props, body, _, same, _⟩ := outcome
    rw [checked] at same
    exact ⟨props, body, same⟩
  · cases ok.symm.trans outcome.1

end Syntax

end MarkdownTree
