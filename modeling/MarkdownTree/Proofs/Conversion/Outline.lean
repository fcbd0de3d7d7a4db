import MarkdownTree.Proofs.Conversion.Elements

/-!
# The outline of converted markup

An `Outline` is what a node is converted to before tags and props are chosen: texts, and elements
that still name the node they are made of and its key. `Node.outline` makes it by recursion on the
node alone, without definitions, overrides and settings. `Outline.dress` chooses the tags and props
for a context.

`ensures_outline` is the equation between the two sides: what a conversion gives is the outline of
the node, dressed for the context of the conversion. Whatever is said of the result can be said of
the outline first, where nothing can fail.
-/

namespace MarkdownTree

/-- Markup whose elements are not yet given their tags and props. -/
inductive Outline where
  /-- Markup that is the same under all overrides. -/
  | fixed (m : Markup)
  /-- The element of a node, which is the node as it is rewritten. -/
  | element (n : Node) (key : String) (body : List Outline)

namespace Node

/-! ### Tags and props -/

/-- The tag of a node that is rendered. -/
def tagUnder (overrides : Overrides) (n : Node) : Tag :=
  ((Entries.get? overrides n.kind).bind Override.tag?).getD (.name n.defaultTag)

/-- The props that a node has because of its kind, where a reference may lead nowhere. -/
def computedFields (definitions : Entries (Option String) Definition) (n : Node) : Fields :=
  ((Conversion.start (Conversion.computedProps { definitions, settings := default } n)).1.toOption)
    |>.getD []

/-- The props that an override gives to all nodes of the kind. -/
def staticFields (overrides : Overrides) (n : Node) : Fields :=
  ((Entries.get? overrides n.kind).map Override.props).getD []

/-- The props that an override computes from the node. -/
def dynamicFields (overrides : Overrides) (n : Node) : Fields :=
  (((Entries.get? overrides n.kind).bind Override.dynamicProps).bind fun f => (f n).toOption).getD
    []

/-- The props that come last and that no override replaces. -/
def finalFields (n : Node) : Fields :=
  if n.kind = "html" then [("innerHTML", .string (n.value.getD ""))] else []

/-- All props that a node is given, in the order in which they are set. -/
def givenFields (c : Context) (n : Node) (key : String) : Fields :=
  ("key", .string key) :: n.computedFields c.definitions ++ n.staticFields c.overrides ++
    n.dynamicFields c.overrides ++ n.finalFields

/-- The props of a node. -/
def propsUnder (c : Context) (n : Node) (key : String) : Fields :=
  Entries.ofList (n.givenFields c key)

/-! ### Outlines -/

/-- The inner element of a block of code. -/
def innerCode (n : Node) : Markup :=
  .element (.name "code")
    (match n.lang with
    | none | some "" => []
    | some lang => [("class", .string ("lang-" ++ lang))])
    [.text (n.value.getD "")]

/-- What most elements hold: the value of the node, or else the outlines of its children. -/
def outlineContent (n : Node) (children : List Outline) : List Outline :=
  match n.value with
  | some value => [.fixed (.text value)]
  | none => children

/-- What the element of a node holds, given the outlines of its children. -/
def outlineBody (n : Node) (children : List Outline) : List Outline :=
  match n.handling with
  | .code => [.fixed n.innerCode]
  | .html => []
  | .listItem =>
    match n.checked with
    | none => n.outlineContent children
    | some done => .fixed (Conversion.checkbox done) :: children
  | _ => n.outlineContent children

theorem outlineBody_of_content {n : Node} (code : n.handling ≠ .code) (html : n.handling ≠ .html)
    (task : n.handling = .listItem → n.checked = none) (children : List Outline) :
    n.outlineBody children = n.outlineContent children := by
  unfold outlineBody
  split
  · next way => exact absurd way code
  · next way => exact absurd way html
  · next way => rw [task way]
  · rfl

/-- The outline of a node, or none if it is not rendered. -/
def outline (n : Node) (key : String) : Option Outline :=
  if n.isText then n.value.map fun value => .fixed (.text value)
  else if n.isUnrendered then none
  else some (.element n.rewritten key (n.rewritten.outlineBody
    ((n.rewritten.childList.attach.mapIdx fun i d =>
      outline d.1 (toString i)).flatMap Option.toList)))
termination_by n.weight
decreasing_by exact weight_lt_of_mem_rewritten d.2

/-- The outlines of several nodes, keyed by their positions, which count from `i`. -/
def outlines (i : Nat) (nodes : List Node) : List Outline :=
  (nodes.mapIdx fun j d => d.outline (toString (i + j))).flatMap Option.toList

@[simp] theorem outlines_nil (i : Nat) : outlines i [] = [] := rfl

theorem outlines_cons (i : Nat) (d : Node) (nodes : List Node) :
    outlines i (d :: nodes) = (d.outline (toString i)).toList ++ outlines (i + 1) nodes := by
  simp only [outlines, List.mapIdx_cons, List.flatMap_cons, Nat.add_zero, Nat.add_assoc,
    Nat.add_comm 1]

/-- The outline of the element of a node that is already rewritten. -/
def ownOutline (n : Node) (key : String) : Outline :=
  .element n key (n.outlineBody (outlines 0 n.childList))

theorem outline_eq (n : Node) (key : String) :
    n.outline key =
      if n.isText then n.value.map fun value => .fixed (.text value)
      else if n.isUnrendered then none
      else some (n.rewritten.ownOutline key) := by
  have attached : (n.rewritten.childList.attach.mapIdx fun i d => outline d.1 (toString i)) =
      n.rewritten.childList.mapIdx fun j d => d.outline (toString (0 + j)) := by
    apply List.ext_getElem
    · simp
    · intro i h₁ h₂
      simp
  rw [outline, attached]
  rfl

theorem handling_rewritten (n : Node) : n.rewritten.handling = n.handling := by
  rw [handling, handling, kind_rewritten]

theorem handling_of_isUnrendered {n : Node} (h : n.isUnrendered = true) :
    n.handling = .generic := by
  simp only [isUnrendered, Bool.or_eq_true, decide_eq_true_eq] at h
  rcases h with (kind | kind) | kind <;> simp [handling, Handling.ofKind, kind]

end Node

namespace Outline

mutual

/-- The markup that an outline becomes in a context. -/
def dress (c : Context) : Outline → Markup
  | .fixed m => m
  | .element n key body => .element (n.tagUnder c.overrides) (n.propsUnder c key) (dressAll c body)

/-- The markup that several outlines become. -/
def dressAll (c : Context) : List Outline → List Markup
  | [] => []
  | o :: os => dress c o :: dressAll c os

end

theorem dressAll_eq_map (c : Context) (os : List Outline) : dressAll c os = os.map (dress c) := by
  induction os with
  | nil => rfl
  | cons o os ih => rw [dressAll, ih, List.map_cons]

@[simp] theorem dress_fixed (c : Context) (m : Markup) : dress c (.fixed m) = m := rfl

@[simp] theorem dress_element (c : Context) (n : Node) (key : String) (body : List Outline) :
    dress c (.element n key body) =
      .element (n.tagUnder c.overrides) (n.propsUnder c key) (body.map (dress c)) := by
  rw [dress, dressAll_eq_map]

end Outline

namespace Conversion

open Outline

variable {c : Context} {frames : Nat} {n : Node} {key : String}
variable {children : Conversion (List Markup)}

/-! ### Props -/

theorem ensures_resolve :
    Ensures (resolve c n) (· = (Entries.get? c.definitions n.identifier).getD {}) := by
  unfold resolve
  split
  · next d found => exact .pure (by rw [found, Option.getD_some])
  · next missing =>
    split
    · intro p a q run
      cases run
    · exact .seq fun _ => .pure (by rw [missing, Option.getD_none])

/-- A reference may lead nowhere, so its computed props are there in every case. -/
theorem ensures_computedFields :
    Ensures (computedProps c n) (· = n.computedFields c.definitions) := by
  have lenient (f : Definition → Fields) :
      (start (resolve { definitions := c.definitions, settings := default } n >>=
        fun d => pure (f d))).1 =
        .ok (f ((Entries.get? c.definitions n.identifier).getD {})) := by
    unfold resolve
    cases Entries.get? c.definitions n.identifier <;> rfl
  have resolved (f : Definition → Fields) :
      Ensures (resolve c n >>= fun d => pure (f d))
        (· = f ((Entries.get? c.definitions n.identifier).getD {})) :=
    .bind ensures_resolve fun d hd => .pure (by rw [hd])
  unfold computedProps Node.computedFields computedProps
  split
  · exact .pure rfl
  split
  · exact .pure rfl
  split
  · exact (resolved _).mono fun a ha => ha.trans (by rw [lenient]; rfl)
  split
  · exact .pure rfl
  split
  · exact (resolved _).mono fun a ha => ha.trans (by rw [lenient]; rfl)
  split
  · exact .pure rfl
  split
  · exact .pure rfl
  · exact .pure rfl

/-- What an override computes, wherever it succeeds. -/
theorem ensures_dynamicProps {o : Override} (own : Entries.get? c.overrides n.kind = some o) :
    Ensures (dynamicProps o n) (· = n.dynamicFields c.overrides) := by
  have fields : n.dynamicFields c.overrides =
      (o.dynamicProps.bind fun f => (f n).toOption).getD [] := by
    rw [Node.dynamicFields, own, Option.bind_some]
  unfold dynamicProps
  split
  · next none => exact .pure (by rw [fields, none]; rfl)
  · next f given =>
    split
    · next made => exact .pure (by rw [fields, given, Option.bind_some, made]; rfl)
    · intro p a q run
      cases run

/-- The props that come last are set when all others are there. -/
theorem ensures_props :
    Ensures (propsOf c n key) fun props =>
      n.propsUnder c key = Entries.merge props n.finalFields := by
  refine .bind ensures_computedFields fun computed hc => ?_
  subst hc
  have layers : n.propsUnder c key =
      Entries.merge (Entries.merge (Entries.merge
        (Entries.merge [("key", .string key)] (n.computedFields c.definitions))
        (n.staticFields c.overrides)) (n.dynamicFields c.overrides)) n.finalFields := by
    simp only [Node.propsUnder, Node.givenFields, Entries.ofList, Entries.merge_append]
    rfl
  split
  · next none =>
    refine .pure ?_
    simp only [layers, Node.staticFields, Node.dynamicFields, none]
    rfl
  · next o own =>
    refine .bind (ensures_dynamicProps own) fun dynamic hd => .pure ?_
    subst hd
    simp only [layers, Node.staticFields, own]
    rfl

theorem ensures_props_of_ne (h : n.kind ≠ "html") :
    Ensures (propsOf c n key) (· = n.propsUnder c key) :=
  ensures_props.mono fun props hp => by rw [hp, Node.finalFields, if_neg h, Entries.merge_nil]

/-! ### The ways of rendering -/

/-- The outlines of the children, dressed. -/
def EnsuresChildren (c : Context) (n : Node) (children : Conversion (List Markup)) : Prop :=
  Ensures children (· = (Node.outlines 0 n.childList).map (dress c))

/-- A single text is taken as it is, without a conversion of its own. -/
theorem ensures_outline_content (h : EnsuresChildren c n children) :
    Ensures (content n children)
      (· = (n.outlineContent (Node.outlines 0 n.childList)).map (dress c)) := by
  unfold content Node.outlineContent
  cases hv : n.value with
  | some value => exact .pure rfl
  | none =>
    split
    · contradiction
    · next d _ single =>
      split
      · next text =>
        refine .pure ?_
        rw [single, Node.outlines_cons, Node.outline_eq, if_pos text]
        cases d.value <;> rfl
      · exact h
    · exact h

theorem tag?_eq_tagUnder (shown : n.isUnrendered = false) :
    n.tag? c.overrides = some (n.tagUnder c.overrides) := by
  rw [Node.tag?, shown]
  rfl

theorem ensures_outline_generic (shown : n.isUnrendered = false) (code : n.handling ≠ .code)
    (html : n.handling ≠ .html) (task : n.handling = .listItem → n.checked = none)
    (h : EnsuresChildren c n children) :
    Ensures (generic c frames n key children) (· = some (dress c (n.ownOutline key))) := by
  have other : n.kind ≠ "html" := fun kind => html (by simp [Node.handling, Handling.ofKind, kind])
  unfold generic
  refine .seq fun _ => ?_
  rw [tag?_eq_tagUnder shown]
  refine .bind (ensures_outline_content h) fun body hb => ?_
  refine .bind (ensures_props_of_ne other) fun props hp => .pure ?_
  rw [hb, hp, Node.ownOutline, dress_element, Node.outlineBody_of_content code html task]

theorem ensures_outline_code (kind : n.kind = "code") :
    Ensures (code c n key) (· = some (dress c (n.ownOutline key))) := by
  have way : n.handling = .code := by simp [Node.handling, Handling.ofKind, kind]
  refine .bind (ensures_props_of_ne (by simp [kind])) fun props hp => .pure ?_
  rw [hp, tag?_eq_tagUnder (by simp [Node.isUnrendered, kind]), Node.ownOutline, Node.outlineBody, way,
    dress_element]
  rfl

theorem ensures_outline_rawHtml (kind : n.kind = "html") :
    Ensures (rawHtml c n key) (· = some (dress c (n.ownOutline key))) := by
  have way : n.handling = .html := by simp [Node.handling, Handling.ofKind, kind]
  refine .bind ensures_props fun props hp => .pure ?_
  rw [tag?_eq_tagUnder (by simp [Node.isUnrendered, kind]), Node.ownOutline, Node.outlineBody, way,
    dress_element, hp, Node.finalFields, if_pos kind]
  rfl

theorem ensures_outline_task {done : Bool} (kind : n.kind = "listItem")
    (checked : n.checked = some done) (h : EnsuresChildren c n children) :
    Ensures (task c n key done children) (· = some (dress c (n.ownOutline key))) := by
  have way : n.handling = .listItem := by simp [Node.handling, Handling.ofKind, kind]
  refine .bind (ensures_props_of_ne (by simp [kind])) fun props hp => ?_
  refine .bind h fun body hb => .pure ?_
  rw [hp, hb, tag?_eq_tagUnder (by simp [Node.isUnrendered, kind]), Node.ownOutline, Node.outlineBody,
    way, checked, dress_element]
  rfl

/-- One case for each way of rendering. -/
theorem ensures_outline_render (text : n.isText = false)
    (h : EnsuresChildren c n.rewritten children) :
    Ensures (render c frames n key children) (· = (n.outline key).map (dress c)) := by
  rw [Node.outline_eq, if_neg (by simp [text])]
  have kind := n.kind_of_handling
  have plain (way : n.handling ≠ .generic) : n.isUnrendered = false := by
    rw [← Bool.not_eq_true]
    exact fun hidden => way (Node.handling_of_isUnrendered hidden)
  unfold render
  refine .seq fun _ => ?_
  split
  · next way =>
    rw [Node.rewritten_of_generic way] at h ⊢
    cases shown : n.isUnrendered with
    | true =>
      unfold generic
      rw [Node.tag?_eq_none.2 shown, if_pos rfl]
      exact .seq fun _ => .pure rfl
    | false =>
      rw [if_neg (by decide)]
      exact ensures_outline_generic shown (by simp [way]) (by simp [way]) (by simp [way]) h
  · next way =>
    have same : n.rewritten = n := by simp only [Node.rewritten, way]
    rw [plain (by simp [way]), if_neg (by decide), same]
    exact .seq fun _ => ensures_outline_code (by simpa only [way] using kind)
  · next way =>
    have same : n.rewritten = n := by simp only [Node.rewritten, way]
    rw [plain (by simp [way]), if_neg (by decide), same]
    exact .seq fun _ => ensures_outline_rawHtml (by simpa only [way] using kind)
  · next way =>
    have same : n.rewritten = n := by simp only [Node.rewritten, way]
    have shown := plain (by simp [way])
    rw [same] at h
    rw [shown, if_neg (by decide), same]
    refine .seq fun _ => ?_
    split
    · next unchecked =>
      exact ensures_outline_generic shown (by simp [way]) (by simp [way]) (fun _ => unchecked) h
    · next done checked => exact ensures_outline_task (by simpa only [way] using kind) checked h
  · next ways code html item =>
    have shown := plain ways
    rw [shown, if_neg (by decide)]
    refine .seq fun _ => ensures_outline_generic ?_ ?_ ?_ ?_ h
    · simpa only [Node.isUnrendered, Node.kind_rewritten] using shown
    · rwa [Node.handling_rewritten]
    · rwa [Node.handling_rewritten]
    · rw [Node.handling_rewritten]
      exact fun way => absurd way item

/-- What is there of the dressed outlines of several nodes is what is there of them, dressed. -/
theorem eq_of_each_outline {found : List (Option Markup)} {nodes : List Node} {i : Nat}
    (h : Each (fun j d m? => m? = (d.outline (toString j)).map (dress c)) i nodes found) :
    found.flatMap Option.toList = (Node.outlines i nodes).map (dress c) := by
  induction h with
  | nil => rfl
  | @cons i d m? nodes found head _ ih =>
    rw [List.flatMap_cons, ih, head, Node.outlines_cons, List.map_append]
    cases d.outline (toString i) <;> rfl

theorem ensures_outlines {nodes : List Node}
    (h : ∀ frames key, ∀ d ∈ nodes,
      Ensures (convert c frames d key) (· = (d.outline key).map (dress c))) :
    Ensures (convertEach c frames nodes) (· = (Node.outlines 0 nodes).map (dress c)) := by
  refine (Ensures.collectEach fun i d member => h frames (toString i) d member).mono ?_
  rintro ms ⟨found, each, rfl⟩
  exact eq_of_each_outline each

/-- What a conversion gives is the outline of the node, dressed. -/
theorem ensures_outline (c : Context) (frames : Nat) (n : Node) (key : String) :
    Ensures (convert c frames n key) (· = (n.outline key).map (dress c)) := by
  induction hw : n.weight using Nat.strongRecOn generalizing frames n key with
  | ind w ih =>
      rw [convert_eq]
      refine .seq fun _ => ?_
      split
      · next text =>
        refine .pure ?_
        rw [Node.outline_eq, if_pos text]
        cases n.value <;> rfl
      · next text =>
        refine .within _ (ensures_outline_render (by simpa using text) ?_)
        refine ensures_outlines fun frames key d member => ?_
        exact ih d.weight (hw ▸ Node.weight_lt_of_mem_rewritten member) frames d key rfl

end Conversion

end MarkdownTree
