import MarkdownTree.Proofs.Entries
import MarkdownTree.Proofs.Syntax.Joining
import MarkdownTree.Proofs.Syntax.Parts

/-!
# What the builder makes of a tree, kind by kind

A builder that succeeds has built the parts of the tree, whatever the kind of the tree is, and has
made one node around their nodes or joined their texts. `formed_of_build` goes through the kinds and
says once what this node is: its kind, its value, its place, and how its children come from the
nodes of the parts.

Sections, rows and cells of a table put further nodes around what the cells hold. `Regroups` says
so without a word about tables. What is read off nodes and does not depend on how texts are joined
and grouped (`Additive`) is the same before and after.
-/

namespace MarkdownTree

namespace Node

/-- The text of a node itself, without that of its children. -/
def ownText (n : Node) : List Char := (n.value.getD "").toList

end Node

namespace Syntax

namespace Tree

/-- The kinds of nodes that the known kinds of trees become. -/
def nodeKinds : List (String × String) :=
  containerKinds ++
    [("heading", "heading"), ("bullet_list", "list"), ("ordered_list", "list"),
      ("list_item", "listItem"), ("fence", "code"), ("code_block", "code"), ("html_block", "html"),
      ("html_inline", "html"), ("hr", "horizontalRule"), ("table", "table"),
      ("front_matter", "yaml"), ("footnote_reference", "footnoteDefinition"),
      ("footnote_ref", "footnoteReference"), ("text", "text"), ("softbreak", "text"),
      ("hardbreak", "break"), ("code_inline", "inlineCode"), ("link", "link"), ("image", "image")]

/-- The kind of the node that a tree becomes; a kind that is not known keeps its name. -/
def nodeKind (t : Tree) : String := (Entries.get? nodeKinds t.kind).getD t.kind

/-- The known kinds whose trees have no text of their own. -/
def silentKinds : List String :=
  ["inline", "paragraph", "blockquote", "em", "strong", "s", "heading", "bullet_list",
    "ordered_list", "list_item", "table", "footnote_reference", "link", "image", "hardbreak", "hr",
    "footnote_ref"]

/-- The kinds of trees whose nodes have no place in the source. -/
def unplacedKinds : List String :=
  ["text", "softbreak", "hardbreak", "code_inline", "footnote_ref", "link", "image"]

/-- A text without the line feed at its end, if there is one. -/
def unterminated (s : List Char) : List Char := if s.getLast? = some '\n' then s.dropLast else s

/-- The text of a tree itself, without that of its parts. A kind that is not known shows its
content. -/
def ownText (t : Tree) : List Char :=
  let content := (t.content.getD "").toList
  if t.kind = "softbreak" then ['\n']
  else if t.kind ∈ ["fence", "code_block", "html_block", "html_inline"] then unterminated content
  else if t.kind ∈ silentKinds then []
  else content

end Tree

open MarkdownTree.Syntax.Tree

variable {position : Bool} {t : Tree} {ts us : List Tree} {ns cs : List Node} {kind : String}

/-! ### Sequences of steps -/

theorem bind_eq_ok {x : Build α} {f : α → Build β} {b : β} :
    (x >>= f) = .ok b ↔ ∃ a, x = .ok a ∧ f a = .ok b := by
  cases x with
  | error e => exact ⟨nofun, fun ⟨a, h, _⟩ => nomatch h⟩
  | ok a => exact ⟨fun h => ⟨a, rfl, h⟩, fun ⟨_, h, hf⟩ => by cases h; exact hf⟩

theorem of_bind_eq_error {x : Build α} {f : α → Build β} {fault : Fault}
    (h : (x >>= f) = .error fault) : x = .error fault ∨ ∃ a, x = .ok a ∧ f a = .error fault := by
  cases x with
  | error e =>
    cases h
    exact .inl rfl
  | ok a => exact .inr ⟨a, rfl, h⟩

theorem buildEach_nil : buildEach position [] = .ok ns ↔ ns = [] := by
  rw [buildEach]
  exact ⟨fun h => by cases h; rfl, fun h => by rw [h]; rfl⟩

theorem buildEach_cons :
    buildEach position (t :: ts) = .ok ns ↔
      ∃ as bs, build position t = .ok as ∧ buildEach position ts = .ok bs ∧ ns = as ++ bs := by
  rw [buildEach, bind_eq_ok]
  constructor
  · rintro ⟨as, first, rest⟩
    obtain ⟨bs, others, last⟩ := bind_eq_ok.1 rest
    cases last
    exact ⟨as, bs, first, others, rfl⟩
  · rintro ⟨as, bs, first, others, rfl⟩
    exact ⟨as, first, bind_eq_ok.2 ⟨bs, others, rfl⟩⟩

/-- What holds of the nodes of every single tree holds of the nodes of all of them. -/
theorem forall_of_buildEach {P : Node → Prop}
    (each : ∀ t ∈ ts, ∀ ns, build position t = .ok ns → ∀ n ∈ ns, P n)
    (h : buildEach position ts = .ok ns) : ∀ n ∈ ns, P n := by
  induction ts generalizing ns with
  | nil =>
    rw [buildEach_nil.1 h]
    exact nofun
  | cons t ts ih =>
    obtain ⟨as, bs, first, others, rfl⟩ := buildEach_cons.1 h
    intro n hn
    rcases List.mem_append.1 hn with hn | hn
    · exact each t List.mem_cons_self as first n hn
    · exact ih (fun u hu => each u (List.mem_cons_of_mem t hu)) others n hn

theorem buildEach_append :
    buildEach position (ts ++ us) = .ok ns ↔
      ∃ as bs, buildEach position ts = .ok as ∧ buildEach position us = .ok bs ∧ ns = as ++ bs := by
  induction ts generalizing ns with
  | nil =>
    simp only [List.nil_append, buildEach_nil]
    exact ⟨fun h => ⟨[], ns, rfl, h, rfl⟩, by rintro ⟨_, bs, rfl, h, rfl⟩; exact h⟩
  | cons t ts ih =>
    simp only [List.cons_append, buildEach_cons, ih]
    constructor
    · rintro ⟨as, _, first, ⟨bs, cs, rest, others, rfl⟩, rfl⟩
      exact ⟨as ++ bs, cs, ⟨as, bs, first, rest, rfl⟩, others, (List.append_assoc ..).symm⟩
    · rintro ⟨_, cs, ⟨as, bs, first, rest, rfl⟩, others, rfl⟩
      exact ⟨as, bs ++ cs, first, ⟨bs, cs, rest, others, rfl⟩, List.append_assoc ..⟩

theorem buildAll_eq_ok :
    buildAll position ts = .ok ns ↔ ∃ cs, buildEach position ts = .ok cs ∧ ns = joinTexts cs := by
  rw [buildAll, bind_eq_ok]
  exact ⟨fun ⟨cs, h, e⟩ => ⟨cs, h, by cases e; rfl⟩, fun ⟨cs, h, e⟩ => ⟨cs, h, by rw [e]; rfl⟩⟩

theorem withLabel_eq_ok {label : Value} {n m : Node} (h : withLabel label n = .ok m) :
    ∃ s, label = .string s ∧ m = { n with identifier := some s, label := some s } := by
  cases label with
  | string s =>
    cases h
    exact ⟨s, rfl, rfl⟩
  | _ => contradiction

theorem withTarget_eq_ok {field : String} {title target : Value} {n : Node}
    {make : Option String → Option String → Node} (h : withTarget field title target make = .ok n) :
    ∃ title target, n = make title target := by
  unfold withTarget at h
  rcases ht : (Check.nullable Check.text title).within "title" with title | reasons <;>
    rcases hf : (Check.nullable Check.text target).within field with target | reasons' <;>
    rw [ht, hf] at h <;> cases h
  exact ⟨title, target, rfl⟩

theorem contentOf_eq_ok {s : String} (h : contentOf t = .ok s) : t.content = some s := by
  unfold contentOf at h
  split at h
  · next found =>
    cases h
    exact found
  · cases h

theorem toList_withoutLineFeed (s : String) :
    (withoutLineFeed s).toList = unterminated s.toList := by
  have ends : s.endsWith "\n" = true ↔ s.toList.getLast? = some '\n' := by
    rw [String.endsWith_eq_endsWith_toSlice, String.Slice.endsWith_string_iff,
      String.copy_toSlice, List.getLast?_eq_some_iff]
    exact ⟨fun ⟨front, whole⟩ => ⟨front, whole.symm⟩, fun ⟨front, whole⟩ => ⟨front, whole.symm⟩⟩
  rw [withoutLineFeed, unterminated]
  by_cases line : s.toList.getLast? = some '\n'
  · rw [if_pos (ends.2 line), if_pos line, String.toList_ofList]
  · rw [if_neg fun h => line (ends.1 h), if_neg line]

theorem ownText_of_silent (silent : t.kind ∈ silentKinds) : t.ownText = [] := by
  have table : ∀ kind ∈ silentKinds, kind ≠ "softbreak" ∧
      kind ∉ ["fence", "code_block", "html_block", "html_inline"] := by decide
  obtain ⟨broken, coded⟩ := table _ silent
  rw [Tree.ownText, if_neg broken, if_neg coded, if_pos silent]

theorem parts_eq_children (closed : t.kind ∉ closedKinds) (table : t.kind ≠ "table") :
    t.parts = t.children := by
  rw [Tree.parts, if_neg closed, if_neg table]

theorem parts_of_kind (h : t.kind = kind) (plain : kind ∉ "table" :: closedKinds) :
    t.parts = t.children := by
  rw [← h, List.mem_cons, not_or] at plain
  exact parts_eq_children plain.2 plain.1

/-! ### Tables -/

/-- The kinds of the nodes that are put around the content of a table. -/
def groupKinds : List String := ["tableCell", "tableRow", "tableHeader"]

/-- The nodes in the first list are those in the second one, some of them in groups and some of
their texts joined. -/
inductive Regroups : List Node → List Node → Prop
  | same (as : List Node) : Regroups as as
  | joined (as : List Node) : Regroups (joinTexts as) as
  | around {n : Node} {as : List Node} (kind : n.kind ∈ groupKinds) (value : n.value = none) :
      Regroups n.childList as → Regroups [n] as
  | append {as as' bs bs' : List Node} :
      Regroups as bs → Regroups as' bs' → Regroups (as ++ as') (bs ++ bs')
  | trans {as bs ds : List Node} : Regroups as bs → Regroups bs ds → Regroups as ds

theorem regroups_of_buildCells (h : buildCells position ts = .ok ns) :
    ∃ cs, buildEach position (ts.flatMap children) = .ok cs ∧ Regroups ns cs := by
  induction ts generalizing ns with
  | nil =>
    rw [buildCells] at h
    cases h
    exact ⟨[], buildEach_nil.2 rfl, .same []⟩
  | cons cell ts ih =>
    rw [buildCells] at h
    obtain ⟨_, content, h⟩ := bind_eq_ok.1 h
    obtain ⟨as, first, rfl⟩ := buildAll_eq_ok.1 content
    obtain ⟨ns', others, last⟩ := bind_eq_ok.1 h
    cases last
    obtain ⟨cs, rest, groups⟩ := ih others
    refine ⟨as ++ cs, ?_, .append (.around (by simp [groupKinds]) rfl ?_) groups⟩
    · rw [List.flatMap_cons]
      exact buildEach_append.2 ⟨as, cs, first, rest, rfl⟩
    · exact .joined as

theorem regroups_of_buildRows {lines : Option (Int × Int)} {before after : TableContent}
    (h : buildRows position kind lines before ts = .ok after) :
    ∃ cs, buildEach position ((ts.flatMap children).flatMap children) = .ok cs ∧
      Regroups after.children (before.children ++ cs) := by
  induction ts generalizing before with
  | nil =>
    rw [buildRows] at h
    cases h
    exact ⟨[], buildEach_nil.2 rfl, by simpa using .same _⟩
  | cons row ts ih =>
    rw [buildRows] at h
    obtain ⟨cells, built, h⟩ := bind_eq_ok.1 h
    obtain ⟨as, first, inside⟩ := regroups_of_buildCells built
    obtain ⟨cs, rest, groups⟩ := ih h
    refine ⟨as ++ cs, ?_, ?_⟩
    · rw [List.flatMap_cons, List.flatMap_append]
      exact buildEach_append.2 ⟨as, cs, first, rest, rfl⟩
    · rw [← List.append_assoc]
      refine groups.trans (.append ?_ (.same cs))
      split
      · exact .append (.same before.children) (.around (by simp [groupKinds]) rfl inside)
      · exact .append (.same before.children) (.around (by simp [groupKinds]) rfl inside)

theorem regroups_of_buildSections {before after : TableContent}
    (h : buildSections position before ts = .ok after) :
    ∃ cs, buildEach position (((ts.flatMap children).flatMap children).flatMap children) = .ok cs ∧
      Regroups after.children (before.children ++ cs) := by
  induction ts generalizing before with
  | nil =>
    rw [buildSections] at h
    cases h
    exact ⟨[], buildEach_nil.2 rfl, by simpa using .same _⟩
  | cons section_ ts ih =>
    rw [buildSections] at h
    obtain ⟨between, rows, h⟩ := bind_eq_ok.1 h
    obtain ⟨as, first, inside⟩ := regroups_of_buildRows rows
    obtain ⟨cs, rest, groups⟩ := ih h
    refine ⟨as ++ cs, ?_, ?_⟩
    · rw [List.flatMap_cons, List.flatMap_append, List.flatMap_append]
      exact buildEach_append.2 ⟨as, cs, first, rest, rfl⟩
    · rw [← List.append_assoc]
      exact groups.trans (.append inside (.same cs))

/-! ### What joining and grouping keep -/

/-- No text has children. -/
def TextsClosed (ns : List Node) : Prop := ∀ n ∈ ns, n.kind = "text" → n.childList = []

theorem textsClosed_joinTexts (h : TextsClosed ns) : TextsClosed (joinTexts ns) :=
  forall_mem_joinTexts (fun _ _ _ closed => closed) h

theorem TextsClosed.of_append {ms : List Node} (h : TextsClosed (ns ++ ms)) :
    TextsClosed ns ∧ TextsClosed ms :=
  ⟨fun n hn => h n (List.mem_append_left _ hn), fun n hn => h n (List.mem_append_right _ hn)⟩

theorem textsClosed_of_regroups (h : Regroups ns cs) (closed : TextsClosed cs) :
    TextsClosed ns := by
  induction h with
  | same _ => exact closed
  | joined _ => exact textsClosed_joinTexts closed
  | @around n as group _ _ _ =>
    intro m hm isText
    obtain rfl := List.mem_singleton.1 hm
    exact absurd (isText ▸ group) (by decide)
  | append _ _ first rest =>
    obtain ⟨closedFirst, closedRest⟩ := closed.of_append
    intro n hn
    rcases List.mem_append.1 hn with hn | hn
    · exact first closedFirst n hn
    · exact rest closedRest n hn
  | trans _ _ first second => exact first (second closed)

/-- What is read off a node, if a joined text gives what its two texts do and a group gives what is
in it. -/
structure Additive (f : Node → List α) : Prop where
  joined {n m : Node} : n.kind = "text" → n.childList = [] → m.kind = "text" → m.childList = [] →
    f { n with value := some (n.value.getD "" ++ m.value.getD "") } = f n ++ f m
  around {n : Node} : n.kind ∈ groupKinds → n.value = none → f n = n.childList.flatMap f

namespace Additive

variable {f : Node → List α}

theorem flatMap_joinTexts (additive : Additive f) (closed : TextsClosed ns) :
    (joinTexts ns).flatMap f = ns.flatMap f := by
  induction ns with
  | nil => rfl
  | cons n ns ih =>
    have closedRest : TextsClosed ns := fun m hm => closed m (List.mem_cons_of_mem n hm)
    rw [List.flatMap_cons, ← ih closedRest, joinTexts]
    split
    · next joined => rw [joined, List.flatMap_cons]
    · next m ms joined =>
      rw [joined]
      split
      · next both =>
        have first := closed n List.mem_cons_self both.1
        have second : m.childList = [] :=
          textsClosed_joinTexts closedRest m (by rw [joined]; exact List.mem_cons_self) both.2
        rw [List.flatMap_cons, List.flatMap_cons, additive.joined both.1 first both.2 second,
          List.append_assoc]
      · rw [List.flatMap_cons]

theorem flatMap_regroups (additive : Additive f) (h : Regroups ns cs) (closed : TextsClosed cs) :
    ns.flatMap f = cs.flatMap f := by
  induction h with
  | same _ => rfl
  | joined _ => exact additive.flatMap_joinTexts closed
  | around group value _ inside =>
    rw [List.flatMap_singleton, additive.around group value, inside closed]
  | append _ _ first rest =>
    obtain ⟨closedFirst, closedRest⟩ := closed.of_append
    rw [List.flatMap_append, List.flatMap_append, first closedFirst, rest closedRest]
  | trans _ groups first second =>
    exact (first (textsClosed_of_regroups groups closed)).trans (second closed)

end Additive

/-! ### One tree -/

/-- A kind of trees that is a kind of nodes too can only come from where the table has it. -/
theorem nodeKind_eq_iff (known : kind ∈ Entries.keys nodeKinds) :
    t.nodeKind = kind ↔ (t.kind, kind) ∈ nodeKinds := by
  have table : ∀ pair ∈ nodeKinds, Entries.get? nodeKinds pair.1 = some pair.2 := by decide
  rw [nodeKind]
  constructor
  · intro h
    cases found : Entries.get? nodeKinds t.kind with
    | some k =>
      rw [found] at h
      cases h
      exact Entries.mem_of_get? found
    | none =>
      rw [found] at h
      cases h
      exact absurd known (Entries.get?_eq_none_iff.1 found)
  · intro member
    rw [table _ member]
    rfl

/-- How the children of a node come from the nodes of the parts. -/
inductive Below (t : Tree) (cs : List Node) (n : Node) : Prop
  | joined (item : t.kind ≠ "list_item") (table : t.kind ≠ "table")
      (children : n.childList = joinTexts cs)
  | regrouped (table : t.kind = "table") (children : Regroups n.childList cs)
  | task (item : t.kind = "list_item") (checked : n.checked = (takeTask (joinTexts cs)).1)
      (children : n.childList = (takeTask (joinTexts cs)).2)

theorem Below.childList_eq {n : Node} (below : Below t cs n)
    (plain : t.kind ∉ ["list_item", "table"]) : n.childList = joinTexts cs := by
  simp only [List.mem_cons, List.not_mem_nil, or_false, not_or] at plain
  cases below with
  | joined _ _ children => exact children
  | regrouped table _ => exact absurd table plain.2
  | task item _ _ => exact absurd item plain.1

/-- Texts have no children. -/
theorem Below.childless_of_text {n : Node} (below : Below t cs n) (text : t.nodeKind = "text")
    (each : buildEach position t.parts = .ok cs) : n.childList = [] := by
  have made := (nodeKind_eq_iff (by decide)).1 text
  have leaf : t.kind ∈ closedKinds ∧ t.kind ∉ ["list_item", "table"] := by
    have table : ∀ pair ∈ nodeKinds, pair.2 = "text" →
        pair.1 ∈ closedKinds ∧ pair.1 ∉ ["list_item", "table"] := by decide
    exact table _ made rfl
  rw [Tree.parts, if_pos leaf.1, buildEach_nil] at each
  rw [below.childList_eq leaf.2, each]
  rfl

/-- The node has the place of a tree of the kind and with the lines, unless there is none for the
kind. -/
def PlacedAs (position : Bool) (kind : String) (lines : Option (Int × Int)) (n : Node) : Prop :=
  kind ∈ unplacedKinds ∧ n.position = none ∨
    kind ∉ unplacedKinds ∧ n.position = placeOf position lines

/-- What a tree becomes, given the nodes of its parts. -/
inductive Formed (position : Bool) (t : Tree) (cs : List Node) : List Node → Prop
  | spliced (inline : t.kind = "inline") : Formed position t cs (joinTexts cs)
  | node {n : Node} (inline : t.kind ≠ "inline") (kind : n.kind = t.nodeKind)
      (text : n.ownText = t.ownText) (below : Below t cs n)
      (place : PlacedAs position t.kind t.lines n) : Formed position t cs [n]

/-- The parts of a tree are built, and the tree becomes what is made of their nodes. -/
def HasForm (position : Bool) (t : Tree) (ns : List Node) : Prop :=
  ∃ cs, buildEach position t.parts = .ok cs ∧ Formed position t cs ns

/-- A node that is made without looking below the tree. -/
theorem formed_closed {n : Node} (h : t.kind = kind) (closed : kind ∈ closedKinds)
    (made : n.kind = (Entries.get? nodeKinds kind).getD kind) (text : n.ownText = t.ownText)
    (childless : n.childList = []) (place : PlacedAs position kind t.lines n) :
    HasForm position t [n] := by
  subst h
  have other {k : String} (open_ : k ∉ closedKinds) : t.kind ≠ k := by
    rintro rfl
    exact open_ closed
  refine ⟨[], ?_, .node (other (by decide)) made text ?_ place⟩
  · rw [Tree.parts, if_pos closed]
    exact buildEach_nil.2 rfl
  · exact .joined (other (by decide)) (other (by decide)) childless

/-- A node that has the nodes of the children of the tree for its children. -/
theorem formed_open {n : Node} (closed : t.kind ∉ "inline" :: "list_item" :: "table" :: closedKinds)
    (built : buildAll position t.children = .ok n.childList) (kind : n.kind = t.nodeKind)
    (text : n.ownText = t.ownText) (place : PlacedAs position t.kind t.lines n) :
    HasForm position t [n] := by
  simp only [List.mem_cons, not_or] at closed
  obtain ⟨inline, item, table, closed⟩ := closed
  obtain ⟨cs, each, children⟩ := buildAll_eq_ok.1 built
  rw [← parts_eq_children (by simpa [closedKinds] using closed) table] at each
  exact ⟨cs, each, .node inline kind text (.joined item table children) place⟩

/-- A node without a text of its own that has the nodes of the children for its children. -/
theorem formed_branch {n : Node} (h : t.kind = kind)
    (closed : kind ∉ "inline" :: "list_item" :: "table" :: closedKinds)
    (silent : kind ∈ silentKinds) (built : buildAll position t.children = .ok n.childList)
    (made : n.kind = (Entries.get? nodeKinds kind).getD kind) (text : n.ownText = [])
    (place : PlacedAs position kind t.lines n) :
    HasForm position t [n] := by
  subst h
  exact formed_open closed built made (text.trans (ownText_of_silent silent).symm) place

/-! ### Families of kinds -/

theorem formed_of_container (container : Entries.get? containerKinds t.kind = some kind)
    (built : buildAll position t.children = .ok cs) :
    HasForm position t
      [{ kind, children := some cs, position := placeOf position t.lines }] := by
  have known := Entries.mem_of_get? container
  simp only [containerKinds, List.mem_cons, List.not_mem_nil, Prod.mk.injEq, or_false] at known
  rcases known with ⟨tree, rfl⟩ | ⟨tree, rfl⟩ | ⟨tree, rfl⟩ | ⟨tree, rfl⟩ | ⟨tree, rfl⟩ <;>
    exact formed_branch tree (by decide) (by decide) built rfl rfl (.inr ⟨by decide, rfl⟩)

theorem formed_of_inline (inline : t.kind = "inline")
    (built : buildAll position t.children = .ok ns) : HasForm position t ns := by
  obtain ⟨cs, each, rfl⟩ := buildAll_eq_ok.1 built
  refine ⟨cs, ?_, .spliced inline⟩
  simpa [Tree.parts, inline, closedKinds] using each

/-- The box of a task is taken off the children of an item. -/
theorem formed_of_item (item : t.kind = "list_item")
    (built : buildAll position t.children = .ok ns) :
    HasForm position t
      [{ kind := "listItem", checked := (takeTask ns).1, children := some (takeTask ns).2,
         position := placeOf position t.lines }] := by
  obtain ⟨cs, each, rfl⟩ := buildAll_eq_ok.1 built
  refine ⟨cs, ?_, .node (by simp [item]) (by rw [nodeKind, item]; rfl)
    (ownText_of_silent (by simp [item, silentKinds])).symm (.task item rfl rfl)
    (.inr ⟨by simp [item, unplacedKinds], rfl⟩)⟩
  simpa [Tree.parts, item, closedKinds] using each

theorem formed_of_table {content : TableContent} (table : t.kind = "table")
    (built : buildSections position {} t.children = .ok content) :
    HasForm position t
      [{ kind := "table", align := some (.columns content.align),
         children := some content.children, position := placeOf position t.lines }] := by
  obtain ⟨cs, each, groups⟩ := regroups_of_buildSections built
  refine ⟨cs, ?_, .node (by simp [table]) (by rw [nodeKind, table]; rfl)
    (ownText_of_silent (by simp [table, silentKinds])).symm (.regrouped table groups)
    (.inr ⟨by simp [table, unplacedKinds], rfl⟩)⟩
  simpa [Tree.parts, Tree.cells, Tree.rows, table, closedKinds] using each

/-- A node with the content of a tree, but for the line feed at its end. -/
theorem formed_of_code {n : Node} {s : String} (h : t.kind = kind)
    (code : kind ∈ ["fence", "code_block", "html_block", "html_inline"])
    (content : contentOf t = .ok s) (value : n.value = some (withoutLineFeed s))
    (made : n.kind = (Entries.get? nodeKinds kind).getD kind) (childless : n.childList = [])
    (place : n.position = placeOf position t.lines) : HasForm position t [n] := by
  have codeKinds : ∀ k ∈ ["fence", "code_block", "html_block", "html_inline"],
      k ∈ closedKinds ∧ k ∉ unplacedKinds ∧ k ≠ "softbreak" := by decide
  have known := codeKinds kind code
  refine formed_closed h known.1 made ?_ childless (.inr ⟨known.2.1, place⟩)
  rw [Tree.ownText, h, if_neg known.2.2, if_pos code, contentOf_eq_ok content, Node.ownText, value]
  exact toList_withoutLineFeed s

/-- A kind that is not known keeps its name, and its content is shown. -/
theorem formed_of_unknown (unknown : t.kind ∉ "inline" :: Entries.keys nodeKinds)
    (built : buildAll position t.children = .ok cs) :
    HasForm position t
      [{ kind := t.kind, value := t.content.filter (· ≠ ""),
         children := if cs.isEmpty then none else some cs,
         position := placeOf position t.lines }] := by
  have other {kinds : List String} (known : kinds ⊆ "inline" :: Entries.keys nodeKinds) :
      t.kind ∉ kinds := fun member => unknown (known member)
  have below : (if cs.isEmpty = true then none else some cs).getD [] = cs := by
    cases cs <;> rfl
  have silent : t.kind ∉ silentKinds := other (by decide)
  have coded : t.kind ∉ ["fence", "code_block", "html_block", "html_inline"] := other (by decide)
  have broken : t.kind ∉ ["softbreak"] := other (by decide)
  have own : t.ownText = (t.content.getD "").toList := by
    rw [Tree.ownText, if_neg (by simpa using broken), if_neg coded, if_neg silent]
  refine formed_open (other (by decide)) (built.trans (congrArg Except.ok below.symm)) ?_ ?_
    (.inr ⟨other (by decide), rfl⟩)
  · rw [nodeKind, Entries.get?_eq_none_iff.2 (other (by decide))]
    rfl
  · rw [own, Node.ownText]
    cases content : t.content with
    | none => rfl
    | some s => by_cases empty : s = "" <;> simp [Option.filter, empty]

/-- Every way of building a node, by the kind of the tree. -/
theorem formed_of_build (h : build position t = .ok ns) : HasForm position t ns := by
  rw [build] at h
  dsimp only at h
  split at h
  · next kind container =>
    obtain ⟨children, built, last⟩ := bind_eq_ok.1 h
    cases last
    exact formed_of_container container built
  split at h
  case h_1 inline => exact formed_of_inline inline h
  case h_2 kind | h_4 kind =>
    obtain ⟨_, _, h⟩ := bind_eq_ok.1 h
    obtain ⟨children, built, last⟩ := bind_eq_ok.1 h
    cases last
    exact formed_branch kind (by decide) (by decide) built rfl rfl (.inr ⟨by decide, rfl⟩)
  case h_3 kind =>
    obtain ⟨children, built, last⟩ := bind_eq_ok.1 h
    cases last
    exact formed_branch kind (by decide) (by decide) built rfl rfl (.inr ⟨by decide, rfl⟩)
  case h_5 item =>
    obtain ⟨children, built, last⟩ := bind_eq_ok.1 h
    cases last
    exact formed_of_item item built
  case h_6 kind | h_7 kind | h_8 kind | h_9 kind =>
    obtain ⟨s, content, last⟩ := bind_eq_ok.1 h
    cases last
    exact formed_of_code kind (by decide) content rfl rfl rfl rfl
  case h_10 kind =>
    cases h
    exact formed_closed kind (by decide) rfl (by rw [Tree.ownText, kind]; rfl) rfl
      (.inr ⟨by decide, rfl⟩)
  case h_15 kind | h_16 kind | h_17 kind | h_18 kind =>
    cases h
    exact formed_closed kind (by decide) rfl (by rw [Tree.ownText, kind]; rfl) rfl
      (.inl ⟨by decide, rfl⟩)
  case h_11 table =>
    obtain ⟨content, built, last⟩ := bind_eq_ok.1 h
    cases last
    exact formed_of_table table built
  case h_12 kind =>
    obtain ⟨s, content, h⟩ := bind_eq_ok.1 h
    obtain ⟨_, _, h⟩ := bind_eq_ok.1 h
    obtain ⟨_, _, last⟩ := bind_eq_ok.1 h
    cases last
    refine formed_closed kind (by decide) rfl ?_ rfl (.inr ⟨by decide, rfl⟩)
    rw [Tree.ownText, kind, contentOf_eq_ok content]
    rfl
  case h_13 kind =>
    obtain ⟨_, _, h⟩ := bind_eq_ok.1 h
    obtain ⟨children, built, h⟩ := bind_eq_ok.1 h
    obtain ⟨n, labelled, last⟩ := bind_eq_ok.1 h
    cases last
    obtain ⟨s, -, rfl⟩ := withLabel_eq_ok labelled
    exact formed_branch kind (by decide) (by decide) built rfl rfl (.inr ⟨by decide, rfl⟩)
  case h_14 kind =>
    obtain ⟨_, _, h⟩ := bind_eq_ok.1 h
    obtain ⟨n, labelled, last⟩ := bind_eq_ok.1 h
    cases last
    obtain ⟨s, -, rfl⟩ := withLabel_eq_ok labelled
    exact formed_closed kind (by decide) rfl (by rw [Tree.ownText, kind]; rfl) rfl
      (.inl ⟨by decide, rfl⟩)
  case h_19 kind =>
    obtain ⟨children, built, h⟩ := bind_eq_ok.1 h
    obtain ⟨n, targeted, last⟩ := bind_eq_ok.1 h
    cases last
    obtain ⟨_, _, rfl⟩ := withTarget_eq_ok targeted
    exact formed_branch kind (by decide) (by decide) built rfl rfl (.inl ⟨by decide, rfl⟩)
  case h_20 kind =>
    obtain ⟨n, targeted, last⟩ := bind_eq_ok.1 h
    cases last
    obtain ⟨_, _, rfl⟩ := withTarget_eq_ok targeted
    exact formed_closed kind (by decide) rfl (by rw [Tree.ownText, kind]; rfl) rfl
      (.inl ⟨by decide, rfl⟩)
  case h_21 =>
    obtain ⟨children, built, last⟩ := bind_eq_ok.1 h
    cases last
    have container : t.kind ∉ Entries.keys containerKinds := Entries.get?_eq_none_iff.1 ‹_›
    simp only [imp_false] at *
    have unknown : t.kind ∉ "inline" :: Entries.keys nodeKinds := by
      simp only [nodeKinds, Entries.keys, List.map_append, List.mem_cons, List.mem_append,
        List.map_cons, List.map_nil, List.not_mem_nil, or_false, not_or] at container ⊢
      simp only [not_false_eq_true, *, and_true]
    exact formed_of_unknown unknown built

end Syntax

end MarkdownTree
