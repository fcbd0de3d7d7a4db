import MarkdownTree.Proofs.Conversion.Quotes
import MarkdownTree.Proofs.Node.Depth
import MarkdownTree.Proofs.References
import MarkdownTree.Rendering

/-!
# How deep elements nest

The limit of nesting counts the nodes that a conversion is inside of. Some elements are made
without being counted: the inner element of code, the box of a task, the element of a footnote and
the one that holds the footnotes. `EnsuresAt` is the postcondition of a conversion that starts
inside of a given number of nodes; with it the markup of a node is at most one level deeper than
the levels that are left (`ensuresAt_convert`). A footnote is converted outside of all nodes,
wherever it stands in the document, and ends up three elements below the root
(`nesting_bounded`).
-/

namespace MarkdownTree

namespace Markup

theorem heightOfAll_append (ms ms' : List Markup) :
    heightOfAll (ms ++ ms') = max (heightOfAll ms) (heightOfAll ms') := by
  induction ms with
  | nil => exact (Nat.zero_max _).symm
  | cons m ms ih => rw [List.cons_append, heightOfAll, heightOfAll, ih, Nat.max_assoc]

@[simp] theorem heightOfAll_singleton (m : Markup) : heightOfAll [m] = m.height := Nat.max_zero _

theorem heightOfAll_text? (value : Option String) :
    heightOfAll (value.map Markup.text).toList = 0 := by
  cases value <;> rfl

end Markup

open Markup

namespace Conversion

variable {c : Context} {frames depth k : Nat} {n : Node} {key : String}

/-- Whenever the conversion succeeds inside of `depth` nodes, it is inside of as many again, and its
result has the property. -/
def EnsuresAt (depth : Nat) (m : Conversion α) (P : α → Prop) : Prop :=
  ∀ p a q, p.depth = depth → m p = (.ok a, q) → q.depth = depth ∧ P a

namespace EnsuresAt

variable {m : Conversion α} {f : α → Conversion β} {P : α → Prop} {Q : β → Prop} {a : α}

theorem pure (h : P a) : EnsuresAt depth (pure a) P := by
  intro p a' q start run
  cases run
  exact ⟨start, h⟩

theorem bind (first : EnsuresAt depth m P) (second : ∀ a, P a → EnsuresAt depth (f a) Q) :
    EnsuresAt depth (m >>= f) Q := by
  intro p b r start run
  obtain ⟨a, q, hm, hf⟩ := bind_eq_ok.1 run
  obtain ⟨left, holds⟩ := first p a q start hm
  exact second a holds q b r left hf

/-- A framed first step of which nothing is used. -/
theorem seq (framed : Framed m) (second : ∀ a, EnsuresAt depth (f a) Q) :
    EnsuresAt depth (m >>= f) Q := by
  refine bind (P := fun _ => True) (fun p a q start run => ⟨?_, trivial⟩) fun a _ => second a
  obtain ⟨x, added, same⟩ := framed p.depth
  rw [same p.warnings] at run
  cases run
  exact start

/-- A node is entered if there is a level left, and then there is one less. -/
theorem within {limit : Nat} (inside : depth < limit → EnsuresAt (depth + 1) m P) :
    EnsuresAt depth (within limit m) P := by
  intro p a q start run
  by_cases deep : limit < p.depth + 1
  · rw [within_of_lt deep] at run
    cases run
  · rcases hm : m { p with depth := p.depth + 1 } with ⟨x, q'⟩
    rw [within_of_not_lt deep hm, Prod.mk.injEq, reported_eq_ok] at run
    obtain ⟨rfl, rfl⟩ := run
    obtain ⟨left, holds⟩ := inside (by omega) _ a q' (congrArg (· + 1) start) hm
    exact ⟨Nat.sub_eq_of_eq_add left, holds⟩

/-- The results of the steps are no higher than any bound for each of them. -/
theorem collectEach {g : Nat → α → Conversion (Option Markup)} {l : List α} {i : Nat}
    (step : ∀ j a, a ∈ l → EnsuresAt depth (g j a) fun m? => heightOfAll m?.toList ≤ k) :
    EnsuresAt depth (collectEach g i l) fun ms => heightOfAll ms ≤ k := by
  induction l generalizing i with
  | nil => exact pure (Nat.zero_le k)
  | cons a l ih =>
    refine bind (step i a (by simp)) fun m? first => ?_
    refine bind (ih fun j b member => step j b (List.mem_cons_of_mem a member)) fun ms rest => ?_
    exact pure (by rw [heightOfAll_append]; exact Nat.max_le.2 ⟨first, rest⟩)

end EnsuresAt

/-! ### One node -/

section render

variable {children : Conversion (List Markup)}
  (below : EnsuresAt depth children fun ms => heightOfAll ms ≤ k)

include below

theorem ensuresAt_content : EnsuresAt depth (content n children) fun ms => heightOfAll ms ≤ k := by
  unfold content
  split
  · exact .pure (Nat.zero_le k)
  · split
    · exact .pure (by rw [heightOfAll_text?]; exact Nat.zero_le k)
    · exact below
  · exact below

theorem ensuresAt_generic :
    EnsuresAt depth (generic c frames n key children) fun m? => heightOfAll m?.toList ≤ k + 1 := by
  unfold generic
  refine .seq (Framed.call c _) fun _ => ?_
  split
  · exact .pure (Nat.zero_le _)
  · refine (ensuresAt_content below).bind fun body low => ?_
    refine .seq ((Framed.comparison c).propsOf n key) fun props => .pure ?_
    rw [Option.toList_some, heightOfAll_singleton, height]
    omega

/-- The box of a task is as high as the markup of a child can be that needs a level for itself. -/
theorem ensuresAt_task (positive : 0 < k) (done : Bool) :
    EnsuresAt depth (task c n key done children) fun m? => heightOfAll m?.toList ≤ k + 1 := by
  unfold task
  refine .seq ((Framed.comparison c).propsOf n key) fun props => below.bind fun body low => .pure ?_
  cases n.tag? c.overrides with
  | none => exact Nat.zero_le _
  | some tag =>
    have box : (checkbox done).height = 1 := rfl
    rw [element?, Option.map_some, Option.toList_some, heightOfAll_singleton, height, heightOfAll,
      box]
    omega

omit below in
theorem ensuresAt_code (positive : 0 < k) :
    EnsuresAt depth (code c n key) fun m? => heightOfAll m?.toList ≤ k + 1 := by
  unfold code
  refine .seq ((Framed.comparison c).propsOf n key) fun props => .pure ?_
  cases n.tag? c.overrides with
  | none => exact Nat.zero_le _
  | some tag =>
    change 2 ≤ k + 1
    omega

omit below in
theorem ensuresAt_rawHtml :
    EnsuresAt depth (rawHtml c n key) fun m? => heightOfAll m?.toList ≤ k + 1 := by
  unfold rawHtml
  refine .seq ((Framed.comparison c).propsOf n key) fun props => .pure ?_
  cases n.tag? c.overrides with
  | none => exact Nat.zero_le _
  | some tag => exact Nat.le_add_left 1 k

/-- One case for each way of rendering. -/
theorem ensuresAt_render (positive : 0 < k) :
    EnsuresAt depth (render c frames n key children) fun m? => heightOfAll m?.toList ≤ k + 1 := by
  unfold render
  refine .seq (Framed.call c _) fun _ => ?_
  split
  · exact ensuresAt_generic below
  · exact .seq (Framed.call c _) fun _ => ensuresAt_code positive
  · exact .seq (Framed.call c _) fun _ => ensuresAt_rawHtml
  · refine .seq (Framed.call c _) fun _ => ?_
    split
    · exact ensuresAt_generic below
    · exact ensuresAt_task below positive _
  · exact .seq (Framed.call c _) fun _ => ensuresAt_generic below

end render

/-! ### Whole trees -/

/-- The markup of a node is at most one level deeper than the levels that are left. By induction on
the weight, as the children of a rewritten node weigh less than the node. -/
theorem ensuresAt_convert (c : Context) (frames : Nat) (n : Node) (key : String) (depth : Nat) :
    EnsuresAt depth (convert c frames n key) fun m? =>
      heightOfAll m?.toList ≤ c.settings.maxDepth - depth + 1 := by
  induction hw : n.weight using Nat.strongRecOn generalizing frames n key depth with
  | ind w ih =>
    rw [convert_eq]
    refine .seq (Framed.call c _) fun _ => ?_
    split
    · exact .pure (by rw [heightOfAll_text?]; exact Nat.zero_le _)
    · refine .within fun level => ensuresAt_render (.collectEach fun i d member => ?_) (by omega)
      have smaller : d.weight < w := hw ▸ Node.weight_lt_of_mem_rewritten member
      have levels : c.settings.maxDepth - depth = c.settings.maxDepth - (depth + 1) + 1 := by omega
      rw [levels]
      exact ih d.weight smaller _ d _ _ rfl

/-- The element of a footnote is one more than its children, which are converted outside of all
nodes. -/
theorem ensuresAt_renderFootnote (c : Context) (note : Node) :
    EnsuresAt 0 (References.renderFootnote c note) fun m =>
      m.height ≤ c.settings.maxDepth + 2 := by
  have body : EnsuresAt 0 (References.footnoteBody c note) fun ms =>
      heightOfAll ms ≤ c.settings.maxDepth + 1 := by
    unfold References.footnoteBody
    split
    · exact .pure (Nat.zero_le _)
    · exact .collectEach fun i d _ => ensuresAt_convert c 0 d _ 0
  refine body.bind fun ms low => .pure ?_
  rw [height]
  omega

theorem ensuresAt_renderFootnotes (c : Context) (notes : List Node) :
    EnsuresAt 0 (References.renderFootnotes c notes) fun ms =>
      heightOfAll ms ≤ c.settings.maxDepth + 2 ∧ ms.length = notes.length := by
  induction notes with
  | nil => exact .pure ⟨Nat.zero_le _, rfl⟩
  | cons note notes ih =>
    refine (ensuresAt_renderFootnote c note).bind fun m first => ih.bind fun ms rest => .pure ?_
    exact ⟨Nat.max_le.2 ⟨first, rest.1⟩, congrArg (· + 1) rest.2⟩

/-! ### The deepest trees -/

/-- Without overrides code makes two elements of one node, whatever its children are. -/
theorem makes_code (plain : c.overrides = []) (kind : n.kind = "code")
    (room : ∀ limit ∈ c.stackLimit, frames + 2 ≤ limit)
    (shallow : depth + 1 ≤ c.settings.maxDepth) : Makes c frames depth n 2 := by
  intro before
  have called (calls : Nat) (fits : calls ≤ frames + 2) : call c calls = pure () :=
    call_of_room fun limit has => Nat.le_trans fits (room limit has)
  have handled : n.handling = .code := by
    rw [Node.handling, kind]
    rfl
  have tag : n.tag? c.overrides = some (.name "pre") := by
    rw [plain, Node.tag?, Node.isUnrendered, kind, Node.defaultTag_of_get? (by rw [kind]; rfl)]
    rfl
  have props : propsOf c n "0" = pure [("key", .string "0")] := by
    unfold propsOf computedProps
    rw [plain]
    simp [kind, Node.isCell, Entries.get?]
  rw [convert_eq, called frames (by omega), pure_bind, if_neg (by simp [Node.isText, kind]),
    render, handled, called (frames + 1) (by omega), called (frames + 2) (by omega), pure_bind,
    pure_bind, code, props, pure_bind, tag]
  exact ⟨_, _, within_of_not_lt (p := ⟨depth, before⟩) (Nat.not_lt.2 shallow) rfl, rfl⟩

end Conversion

namespace Rendering

open Conversion

/-- The footnotes stand two levels below the root. -/
theorem height_append_footer (settings : Settings) (footnotes : List Markup) (tag : Tag)
    (props : Fields) (children : List Markup) :
    (Markup.element tag props (children ++ [footer settings footnotes])).height =
      max (Markup.element tag props children).height (heightOfAll footnotes + 2) := by
  rw [height, height, heightOfAll_append, heightOfAll_singleton, footer, height]
  omega

theorem height_withFootnotes_le {settings : Settings} {footnotes : List Markup}
    {root? : Option Markup} {m : Markup}
    (result : withFootnotes settings footnotes root? = some m) :
    m.height ≤ max (heightOfAll root?.toList) (heightOfAll footnotes + 2) := by
  cases root? with
  | none => cases result
  | some root =>
    rw [Option.toList_some, heightOfAll_singleton]
    cases root with
    | text s =>
      cases result
      exact Nat.zero_le _
    | element tag props children =>
      rcases withFootnotes_element result with rfl | rfl
      · exact Nat.le_max_left _ _
      · exact Nat.le_of_eq (height_append_footer settings footnotes tag props children)

theorem withFootnotes_nil (settings : Settings) (root? : Option Markup) :
    withFootnotes settings [] root? = root? := by
  rcases root? with _ | _ | _ <;> rfl

/-- However deep the nodes of a document nest, the elements of its markup nest at most four levels
deeper than the limit allows nodes to, and one level deeper if there are no footnotes. -/
theorem height_le_of_renderTree {n : Node} {overrides : Overrides} {settings : Settings}
    {stackLimit : Option Nat} {m : Markup}
    (run : (start (renderTree n overrides settings stackLimit)).1 = .ok (some m)) :
    m.height ≤ settings.maxDepth + 4 ∧
      (n.footnoteNodes = [] → m.height ≤ settings.maxDepth + 1) := by
  let c := References.contextFor n overrides settings stackLimit
  let notes := n.shownFootnotes.map Gathered.labelled
  obtain ⟨q, unpacked⟩ := start_fst_eq.1 run
  rw [References.renderTree_eq] at unpacked
  obtain ⟨footnotes, p, rendered, rest⟩ := bind_eq_ok.1 unpacked
  obtain ⟨root?, p', converted, result⟩ := bind_eq_ok.1 rest
  obtain ⟨outside, low, count⟩ := ensuresAt_renderFootnotes c notes _ _ _ rfl rendered
  obtain ⟨-, root⟩ := ensuresAt_convert c 0 n "0" 0 _ _ _ outside converted
  have levels : c.settings.maxDepth - 0 + 1 = settings.maxDepth + 1 := rfl
  rw [levels] at root
  have shown : withFootnotes settings footnotes root? = some m :=
    Except.ok.inj (congrArg Prod.fst result)
  constructor
  · have := height_withFootnotes_le shown
    omega
  · intro none
    have noNotes : notes = [] := by
      simp only [notes, Node.shownFootnotes, none]
      rfl
    rw [noNotes] at count
    rw [List.eq_nil_of_length_eq_zero count, withFootnotes_nil] at shown
    rw [shown, Option.toList_some, heightOfAll_singleton] at root
    exact root

/-! ### The deepest documents -/

/-- Code in as many quotes as the limit allows around it. -/
def deepCode (maxDepth : Nat) : Node := .quoted (maxDepth - 1) (.leaf "code" "")

/-- A footnote that holds the deepest code. -/
def deepNote (maxDepth : Nat) : Node :=
  { Node.branch "footnoteDefinition" [deepCode maxDepth] with identifier := some "1" }

/-- A block of code that shows nothing of what it holds but the footnote. -/
def deepDocument (maxDepth : Nat) : Node :=
  { Node.leaf "code" "" with children := some [deepNote maxDepth] }

theorem footnoteNodes_of_only_child {n d : Node} (only : n.childList = [d]) :
    n.footnoteNodes =
      if n.kind = "footnoteDefinition" then n :: d.footnoteNodes else d.footnoteNodes := by
  rw [Node.footnoteNodes, Node.preorder_eq, only, List.flatMap_singleton, List.filter_cons]
  simp [Node.footnoteNodes]

theorem footnoteNodes_deepCode (maxDepth : Nat) : (deepCode maxDepth).footnoteNodes = [] := by
  unfold deepCode
  induction maxDepth - 1 with
  | zero =>
    rw [Node.footnoteNodes, Node.preorder_eq]
    rfl
  | succ k ih =>
    have quote : (Node.quoted (k + 1) (.leaf "code" "")).kind ≠ "footnoteDefinition" :=
      (by decide : "blockquote" ≠ "footnoteDefinition")
    rw [footnoteNodes_of_only_child rfl, if_neg quote, ih]

theorem shownFootnotes_deepDocument (maxDepth : Nat) :
    (deepDocument maxDepth).shownFootnotes = [deepNote maxDepth] := by
  have notes : (deepDocument maxDepth).footnoteNodes = [deepNote maxDepth] := by
    rw [footnoteNodes_of_only_child (n := deepDocument maxDepth) rfl,
      footnoteNodes_of_only_child (n := deepNote maxDepth) rfl, footnoteNodes_deepCode]
    rfl
  rw [Node.shownFootnotes, notes]
  exact Entries.lastOfEach_eq_self (List.nodup_singleton _)

/-- The footnote is no paragraph, so it is rendered as it is. -/
theorem labelled_deepNote (maxDepth : Nat) :
    Gathered.labelled (deepNote maxDepth) = deepNote maxDepth := by
  have other : (deepCode maxDepth).kind ≠ "paragraph" := by
    unfold deepCode
    cases maxDepth - 1 with
    | zero => exact (by decide : "code" ≠ "paragraph")
    | succ k => exact (by decide : "blockquote" ≠ "paragraph")
  exact if_neg other

theorem exists_start_renderTree {n : Node} {overrides : Overrides} {settings : Settings}
    {stackLimit : Option Nat} {footnotes : List Markup} {q : Progress} {h : Nat}
    (notes : References.renderFootnotes (References.contextFor n overrides settings stackLimit)
      (n.shownFootnotes.map Gathered.labelled) {} = (.ok footnotes, q))
    (root : Makes (References.contextFor n overrides settings stackLimit) 0 0 n h) :
    ∃ m, (start (renderTree n overrides settings stackLimit)).1 =
      .ok (withFootnotes settings footnotes (some m)) ∧ m.height = h := by
  obtain ⟨outside, -⟩ := ensuresAt_renderFootnotes _ _ _ _ _ rfl notes
  obtain ⟨depth, before⟩ := q
  obtain rfl : depth = 0 := outside
  obtain ⟨m, q', converted, height⟩ := root before
  refine ⟨m, start_fst_eq.2 ⟨q', ?_⟩, height⟩
  rw [References.renderTree_eq, bind_of_ok notes]
  exact bind_of_ok converted

section reached

variable {settings : Settings} {stackLimit : Option Nat}
  (room : ∀ limit ∈ stackLimit, 2 * settings.maxDepth ≤ limit)

include room

theorem makes_deepCode {c : Context} (plain : c.overrides = []) (same : c.settings = settings)
    (stack : c.stackLimit = stackLimit) :
    Makes c 0 0 (deepCode settings.maxDepth) (settings.maxDepth + 1) := by
  have positive := settings.maxDepth_pos
  have levels : settings.maxDepth + 1 = 2 + (settings.maxDepth - 1) := by omega
  rw [levels]
  refine makes_quoted plain rfl (fun limit has => ?_) (by rw [same]; omega)
    (makes_code plain rfl (fun limit has => ?_) (by rw [same]; omega))
  · have := room limit (stack ▸ has)
    omega
  · have := room limit (stack ▸ has)
    omega

theorem deepCode_reaches : ∃ m,
    (start (renderTree (deepCode settings.maxDepth) [] settings stackLimit)).1 = .ok (some m) ∧
      m.height = settings.maxDepth + 1 := by
  let c := References.contextFor (deepCode settings.maxDepth) [] settings stackLimit
  have none : References.renderFootnotes c ((deepCode settings.maxDepth).shownFootnotes.map
      Gathered.labelled) {} = (.ok [], {}) := by
    rw [Node.shownFootnotes, footnoteNodes_deepCode]
    rfl
  obtain ⟨m, run, height⟩ := exists_start_renderTree none (makes_deepCode room rfl rfl rfl)
  exact ⟨m, by rw [run, withFootnotes_nil], height⟩

theorem deepDocument_reaches : ∃ m,
    (start (renderTree (deepDocument settings.maxDepth) [] settings stackLimit)).1 =
        .ok (some m) ∧ m.height = settings.maxDepth + 4 := by
  have positive := settings.maxDepth_pos
  let c := References.contextFor (deepDocument settings.maxDepth) [] settings stackLimit
  let note := deepNote settings.maxDepth
  have labelled : (deepDocument settings.maxDepth).shownFootnotes.map Gathered.labelled =
      [note] := by
    rw [shownFootnotes_deepDocument, List.map_singleton, labelled_deepNote]
  obtain ⟨m, q, made, height⟩ := makes_deepCode room (c := c) rfl rfl rfl []
  have body : References.footnoteBody c note {} = (.ok [m], q) := bind_of_ok made
  have rendered : ∃ footnote, References.renderFootnotes c [note] {} = (.ok [footnote], q) ∧
      footnote.height = settings.maxDepth + 2 := by
    refine ⟨_, bind_of_ok (bind_of_ok body), ?_⟩
    rw [Markup.height, heightOfAll_singleton, height]
    omega
  obtain ⟨footnote, rendered, footnoteHeight⟩ := rendered
  have root : Makes c 0 0 (deepDocument settings.maxDepth) 2 := by
    refine makes_code rfl rfl (fun limit has => ?_) ?_
    · have := room limit has
      omega
    · exact positive
  obtain ⟨m, run, rootHeight⟩ := exists_start_renderTree (labelled ▸ rendered) root
  obtain ⟨tag, props, children, rfl⟩ : ∃ tag props children, m = .element tag props children := by
    cases m with
    | text s => cases rootHeight
    | element tag props children => exact ⟨tag, props, children, rfl⟩
  refine ⟨.element tag props (children ++ [footer settings [footnote]]), run, ?_⟩
  rw [height_append_footer, rootHeight, heightOfAll_singleton, footnoteHeight]
  omega

end reached

/-- However deep the nodes of a document nest, the elements of its markup nest at most four levels
deeper than the limit allows nodes to, and one level deeper if there are no footnotes. Both bounds
are reached under every limit, on every stack that has room for so many nodes. -/
theorem nesting_bounded (settings : Settings) (stackLimit : Option Nat) :
    (∀ n overrides m, (start (renderTree n overrides settings stackLimit)).1 = .ok (some m) →
        m.height ≤ settings.maxDepth + 4 ∧
          (n.footnoteNodes = [] → m.height ≤ settings.maxDepth + 1)) ∧
      ((∀ limit ∈ stackLimit, 2 * settings.maxDepth ≤ limit) →
        (∃ n m, n.footnoteNodes = [] ∧
          (start (renderTree n [] settings stackLimit)).1 = .ok (some m) ∧
            m.height = settings.maxDepth + 1) ∧
        ∃ n m, (start (renderTree n [] settings stackLimit)).1 = .ok (some m) ∧
          m.height = settings.maxDepth + 4) := by
  refine ⟨fun n overrides m run => height_le_of_renderTree run, fun room => ⟨?_, ?_⟩⟩
  · obtain ⟨m, run, height⟩ := deepCode_reaches room
    exact ⟨_, m, footnoteNodes_deepCode _, run, height⟩
  · obtain ⟨m, run, height⟩ := deepDocument_reaches room
    exact ⟨_, m, run, height⟩

/-- With three levels of nodes the elements nest four and seven levels deep. -/
theorem threeLevels_bounded :
    let settings : Settings := { maxDepth := 3 }
    (∃ m, (start (renderTree (deepDocument 3) [] settings)).1 = .ok (some m) ∧ m.height ≤ 7) ∧
      (∃ m, (deepCode 3).footnoteNodes = [] ∧
        (start (renderTree (deepCode 3) [] settings)).1 = .ok (some m) ∧ m.height ≤ 4) ∧
      (∀ limit ∈ usualStackLimit, 2 * 3 ≤ limit) ∧
      (∃ n m, n.footnoteNodes = [] ∧ (start (renderTree n [] settings)).1 = .ok (some m) ∧
        m.height = 4) ∧
      ∃ n m, (start (renderTree n [] settings)).1 = .ok (some m) ∧ m.height = 7 := by
  intro settings
  have room : ∀ limit ∈ usualStackLimit, 2 * settings.maxDepth ≤ limit := by
    intro limit usual
    cases usual
    decide
  obtain ⟨bounded, reached⟩ := nesting_bounded settings usualStackLimit
  obtain ⟨m, run, -⟩ := deepDocument_reaches room
  obtain ⟨m', run', -⟩ := deepCode_reaches room
  have none := footnoteNodes_deepCode 3
  exact ⟨⟨m, run, (bounded _ _ m run).1⟩, ⟨m', none, run', (bounded _ _ m' run').2 none⟩, room,
    reached room⟩

end Rendering

end MarkdownTree
