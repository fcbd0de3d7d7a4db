import MarkdownTree.Proofs.Conversion.Exhaustion
import MarkdownTree.Proofs.Conversion.Quotes

/-!
# One loop for all children

The children of a node are converted in the node itself, and a single text is taken as it is. Only
tasks and footnotes hand their children to a loop of their own. `loopedConvert` is the conversion in
which every node does: it makes one call more for each node with children and converts a single text
like any other child.

On a stack without an end this makes no difference at all. On a limited one the loop may run out of
stack where the conversion does not, and that is the only difference (`looped_alike`).

`MoreCalls` is the relation between steps that this rests on, and `MoreCalls.convert` carries it
over to whole trees, by induction on the weight. Both parts of the result are uses of it.
-/

namespace MarkdownTree

namespace Conversion

/-! ### Conversion with one loop -/

/-- The number of calls between the conversion of a node and that of its children: one more for the
loop, which a task calls anyway. -/
def callsToLoop (n : Node) : Nat :=
  match n.handling, n.checked with
  | .listItem, some _ => callsBetween n
  | _, _ => callsBetween n + 1

/-- The content of a node: its value, or what the loop makes of its children. -/
def loopedContent (n : Node) (children : Conversion (List Markup)) : Conversion (List Markup) :=
  match n.value with
  | some value => pure [.text value]
  | none => children

/-- The element of a node, whose content is made before its props. -/
def loopedGeneric (c : Context) (frames : Nat) (n : Node) (key : String)
    (children : Conversion (List Markup)) : Conversion (Option Markup) := do
  call c (frames + 1)
  match n.tag? c.overrides with
  | none => return none
  | some tag =>
    let body ← loopedContent n children
    let props ← propsOf c n key
    return some (.element tag props body)

/-- The markup of a node that is no text, given what the loop makes of its children. -/
def loopedRender (c : Context) (frames : Nat) (n : Node) (key : String)
    (children : Conversion (List Markup)) : Conversion (Option Markup) := do
  call c (frames + 1)
  match n.handling with
  | .generic => loopedGeneric c (frames + 1) n key children
  | .code =>
    call c (frames + 2)
    code c n key
  | .html =>
    call c (frames + 2)
    rawHtml c n key
  | .listItem =>
    call c (frames + 2)
    match n.checked with
    | none => loopedGeneric c (frames + 2) n key children
    | some done => task c n key done children
  | _ =>
    call c (frames + 1 + callsOfRewriting n)
    loopedGeneric c (frames + 2) n.rewritten key children

/-- The markup of a node, none if it is not rendered, while `frames` calls are active. -/
def loopedConvert (c : Context) (frames : Nat) (n : Node) (key : String) :
    Conversion (Option Markup) := do
  call c frames
  if n.isText then return n.value.map Markup.text
  else
    within c.settings.maxDepth
      (loopedRender c frames n key
        (collectEach (fun i d => loopedConvert c (frames + callsToLoop n) d.1 (toString i)) 0
          n.rewritten.childList.attach))
termination_by n.weight
decreasing_by exact Node.weight_lt_of_mem_rewritten d.2

/-- The loop: the markup of several nodes, each keyed by its position. -/
def loopedConvertEach (c : Context) (frames : Nat) (nodes : List Node) :
    Conversion (List Markup) :=
  collectEach (fun i d => loopedConvert c frames d (toString i)) 0 nodes

theorem loopedConvert_eq (c : Context) (frames : Nat) (n : Node) (key : String) :
    loopedConvert c frames n key = (do
      call c frames
      if n.isText then return n.value.map Markup.text
      else
        within c.settings.maxDepth
          (loopedRender c frames n key
            (loopedConvertEach c (frames + callsToLoop n) n.rewritten.childList))) := by
  rw [loopedConvert]
  have h := collectEach_attach
    (fun i d => loopedConvert c (frames + callsToLoop n) d (toString i)) 0 n.rewritten.childList
  rw [loopedConvertEach, ← h]

/-- A single text is converted with a call of its own. -/
theorem loopedConvertEach_text {d : Node} (text : d.isText = true) (c : Context) (frames : Nat) :
    loopedConvertEach c frames [d] =
      (call c frames >>= fun _ => pure (d.value.map Markup.text).toList) := by
  rw [loopedConvertEach, collectEach, loopedConvert_eq, if_pos text]
  simp only [collectEach, bind_assoc, pure_bind, List.append_nil]

theorem callsBetween_le_callsToLoop (n : Node) : callsBetween n ≤ callsToLoop n := by
  unfold callsToLoop
  split
  · exact Nat.le_refl _
  · exact Nat.le_succ _

end Conversion

/-- Converts a node by the loop; without a key it has the key of a first child. -/
def Converter.loopedConvert (converter : Converter) (n : Node) (key : Option String) :
    (Except Failure (Option Markup) × List Warning) × Converter :=
  converter.run (Conversion.loopedConvert converter.context 0 n (key.getD "0"))

namespace Conversion

/-! ### Steps with more calls -/

/-- A relation between a conversion and one that does the same with more calls, which may be made
while more others are active. -/
structure MoreCalls (c : Context) (Rel : {α : Type} → Conversion α → Conversion α → Prop) :
    Prop where
  framed {α : Type} {m : Conversion α} : Framed m → Rel m m
  bind {α β : Type} {m m' : Conversion α} {f f' : α → Conversion β} :
    Rel m m' → (∀ a, Rel (f a) (f' a)) → Rel (m >>= f) (m' >>= f')
  within {α : Type} {m m' : Conversion α} :
    Rel m m' → Rel (within c.settings.maxDepth m) (within c.settings.maxDepth m')
  call {frames frames' : Nat} : frames ≤ frames' → Rel (call c frames) (call c frames')

namespace MoreCalls

variable {c : Context} {Rel : {α : Type} → Conversion α → Conversion α → Prop}
variable (C : MoreCalls c Rel) {frames frames' : Nat} {n : Node}
variable {children children' : Conversion (List Markup)}

include C

/-- Where no calls are added, the relation compares the steps of conversions under one context. -/
theorem comparison : Comparison c c Rel where
  overrides_eq := rfl
  pure a := C.framed (Framed.pure a)
  bind := C.bind
  call frames := C.call (Nat.le_refl frames)
  within := C.within
  resolve n := C.framed (Framed.resolve c n)
  dynamicProps n o _ := C.framed (Framed.dynamicProps o n)

/-- A call may be added: it does nothing while no others are active, and more of them may be. -/
theorem added {α : Type} (frames : Nat) (a : α) :
    Rel (pure a) (Conversion.call c frames >>= fun _ => pure a) := by
  have made := C.bind (C.call (Nat.zero_le frames)) fun _ => C.comparison.pure a
  rwa [call_zero, pure_bind] at made

/-- A single text is taken as it is on one side, and converted on the other. -/
theorem content (all : Rel children children')
    (lone : ∀ d, n.childList = [d] → d.isText = true →
      Rel (pure (d.value.map Markup.text).toList) children') :
    Rel (content n children) (loopedContent n children') := by
  unfold Conversion.content loopedContent
  cases n.value with
  | some value => exact C.comparison.pure _
  | none =>
    split
    · contradiction
    · next d _ single =>
      split
      · next text => exact lone d single text
      · exact all
    · exact all

theorem generic (more : frames ≤ frames') (key : String) (all : Rel children children')
    (lone : ∀ d, n.childList = [d] → d.isText = true →
      Rel (pure (d.value.map Markup.text).toList) children') :
    Rel (generic c frames n key children) (loopedGeneric c frames' n key children') := by
  unfold Conversion.generic loopedGeneric
  refine C.bind (C.call (by omega)) fun _ => ?_
  cases n.tag? c.overrides with
  | none => exact C.comparison.pure _
  | some tag =>
    refine C.bind (C.content all lone) fun body => ?_
    exact C.bind (C.comparison.propsOf n key) fun props => C.comparison.pure _

/-- One case for each way of rendering. -/
theorem render (more : frames ≤ frames') (key : String) (all : Rel children children')
    (lone : ∀ d, n.rewritten.childList = [d] → d.isText = true →
      Rel (pure (d.value.map Markup.text).toList) children') :
    Rel (render c frames n key children) (loopedRender c frames' n key children') := by
  unfold Conversion.render loopedRender
  refine C.bind (C.call (by omega)) fun _ => ?_
  cases handled : n.handling with
  | generic =>
    rw [Node.rewritten_of_generic handled] at lone
    exact C.generic (by omega) key all lone
  | code =>
    exact C.bind (C.call (by omega)) fun _ => C.comparison.code n key
  | html =>
    exact C.bind (C.call (by omega)) fun _ => C.comparison.rawHtml n key
  | listItem =>
    have plain : n.rewritten = n := by rw [Node.rewritten, handled]
    rw [plain] at lone
    refine C.bind (C.call (by omega)) fun _ => ?_
    cases n.checked with
    | none => exact C.generic (by omega) key all lone
    | some done => exact C.comparison.task all n key done
  | _ =>
    refine C.bind (C.call (by omega)) fun _ => ?_
    exact C.generic (by omega) key all lone

/-- The children of a node, with those of a rewritten one, are converted alike if each of them
is. -/
theorem inside (more : frames ≤ frames') (key : String)
    (each : ∀ i : Nat, ∀ d ∈ n.rewritten.childList,
      Rel (Conversion.convert c (frames + callsBetween n) d (toString i))
        (loopedConvert c (frames' + callsToLoop n) d (toString i))) :
    Rel (Conversion.render c frames n key
        (convertEach c (frames + callsBetween n) n.rewritten.childList))
      (loopedRender c frames' n key
        (loopedConvertEach c (frames' + callsToLoop n) n.rewritten.childList)) := by
  refine C.render more key (C.comparison.collectEach each 0) fun d single text => ?_
  rw [single, loopedConvertEach_text text]
  exact C.added _ _

/-- By induction on the weight, as the children of a rewritten node weigh less than the node. -/
theorem convert (more : frames ≤ frames') (n : Node) (key : String) :
    Rel (convert c frames n key) (loopedConvert c frames' n key) := by
  induction hw : n.weight using Nat.strongRecOn generalizing frames frames' n key with
  | ind w ih =>
    rw [convert_eq, loopedConvert_eq]
    refine C.bind (C.call more) fun _ => ?_
    split
    · exact C.comparison.pure _
    · refine C.within (C.inside more key fun i d member => ?_)
      have lighter : d.weight < w := hw ▸ Node.weight_lt_of_mem_rewritten member
      exact ih d.weight lighter (Nat.add_le_add more (callsBetween_le_callsToLoop n)) d _ rfl

end MoreCalls

variable {c : Context}

/-- Where there is always room, a call does nothing. -/
theorem moreCalls_unlimited (unlimited : c.stackLimit = none) :
    MoreCalls c fun m m' => m' = m where
  framed _ := rfl
  bind first second := by rw [first, funext second]
  within inside := by rw [inside]
  call _ := by rw [call, call, unlimited]

theorem le_of_call_eq {frames limit : Nat} (fits : call c frames = pure ())
    (has : limit ∈ c.stackLimit) : frames ≤ limit := by
  by_contra exceeded
  have refused : call c frames = throw .stackExhausted := by
    rw [call, has]
    exact if_pos (Nat.lt_of_not_le exceeded)
  have same := congrArg (fun m : Conversion Unit => (m {}).1) (refused.symm.trans fits)
  cases same

/-- On a limited stack there may be no room for calls that are added. -/
theorem moreCalls_cutShort (c : Context) :
    MoreCalls c fun m m' => CutShort c.settings.maxDepth m m' where
  framed framed := .of_interrupted (.whole framed)
  bind := .bind
  within := .within
  call {frames frames'} more := by
    by_cases room : ∀ limit ∈ c.stackLimit, frames' ≤ limit
    · have before : ∀ limit ∈ c.stackLimit, frames ≤ limit :=
        fun limit has => Nat.le_trans more (room limit has)
      rw [call_of_room room, call_of_room before]
      exact .of_interrupted (.whole (Framed.pure ()))
    · have full : call c frames' = throw .stackExhausted := by
        refine (call_eq c frames').resolve_left fun fits => room fun limit has => ?_
        exact le_of_call_eq fits has
      rw [full]
      exact .of_interrupted (.exhausted _)

/-! ### Converters -/

section converters

variable (converter : Converter) (n : Node) (key : Option String)

theorem looped_eq_of_unlimited (unlimited : converter.context.stackLimit = none) :
    converter.loopedConvert n key = converter.convert n key := by
  have same : loopedConvert converter.context 0 n (key.getD "0") =
      convertNode converter.context n (key.getD "0") :=
    (moreCalls_unlimited unlimited).convert (Nat.le_refl 0) n _
  rw [Converter.loopedConvert, Converter.convert, same]

/-- Either conversion leaves the depth as it found it. -/
theorem depth_looped :
    (converter.loopedConvert n key).2.progress.depth = converter.progress.depth ∧
      (converter.convert n key).2.progress.depth = converter.progress.depth := by
  let start : Progress := { converter.progress with warnings := [] }
  have cut := (moreCalls_cutShort converter.context).convert (Nat.le_refl 0) n (key.getD "0") start
  obtain ⟨r, added, run⟩ := Framed.convert converter.context 0 n (key.getD "0") start.depth
  exact ⟨cut.1, congrArg (fun x => x.2.depth) (run [])⟩

theorem looped_eq_or_exhausted :
    converter.loopedConvert n key = converter.convert n key ∨
      (converter.loopedConvert n key).1.1 = .error .stackExhausted ∨
      (converter.loopedConvert n key).1.1 =
        .error (.tooDeep converter.context.settings.maxDepth) := by
  let start : Progress := { converter.progress with warnings := [] }
  have cut := (moreCalls_cutShort converter.context).convert (Nat.le_refl 0) n (key.getD "0") start
  refine cut.2.imp_left fun same => ?_
  exact congrArg (fun run => ((run.1, run.2.warnings), { converter with progress := run.2 })) same

/-- Outside of all nodes, the outermost one reports that the stack is exhausted. -/
theorem looped_eq_or_tooDeep (idle : converter.Idle) :
    converter.loopedConvert n key = converter.convert n key ∨
      (converter.loopedConvert n key).1.1 =
        .error (.tooDeep converter.context.settings.maxDepth) := by
  let c := converter.context
  have reports : Reports c.settings.maxDepth (convert c 0 n (key.getD "0"))
      (loopedConvert c 0 n (key.getD "0")) := by
    have C := moreCalls_cutShort c
    rw [convert_eq, loopedConvert_eq, call_zero, pure_bind, pure_bind]
    split
    · exact .pure _
    · refine .reports_within (C.inside (Nat.le_refl 0) _ fun i d _ => ?_)
      exact C.convert (Nat.add_le_add_left (callsBetween_le_callsToLoop n) 0) d _
  obtain ⟨_, _, ends⟩ := reports { converter.progress with warnings := [] } idle
  refine ends.imp_left fun same => ?_
  exact congrArg (fun run => ((run.1, run.2.warnings), { converter with progress := run.2 })) same

end converters

/-- Whether every node hands its children to the loop or converts them itself, and whether it takes
a single text as it is, makes no difference to the result, the failure, the warnings and the depth
of a converter on a stack without an end, at whatever depth it starts. On a limited stack the depth
is the same too, and so is everything else unless the loop runs out of stack: then the nodes are
reported as nested too deep, by the outermost of them if the converter was idle. -/
theorem looped_alike (converter : Converter) (n : Node) (key : Option String) (limit : Nat) :
    let free := converter.withStack none
    let limited := converter.withStack (some limit)
    let looped := limited.loopedConvert n key
    free.loopedConvert n key = free.convert n key ∧
      looped.2.progress.depth = (limited.convert n key).2.progress.depth ∧
      (looped = limited.convert n key ∨
        looped.1.1 = .error (.tooDeep converter.context.settings.maxDepth) ∨
        ¬ converter.Idle ∧ looped.1.1 = .error .stackExhausted) := by
  intro free limited looped
  obtain ⟨left, left'⟩ := depth_looped limited n key
  refine ⟨looped_eq_of_unlimited free n key rfl, left.trans left'.symm, ?_⟩
  by_cases idle : converter.Idle
  · exact (looped_eq_or_tooDeep limited n key idle).imp_right .inl
  · rcases looped_eq_or_exhausted limited n key with same | exhausted | tooDeep
    · exact .inl same
    · exact .inr (.inr ⟨idle, exhausted⟩)
    · exact .inr (.inl tooDeep)

/-! ### Quotes for which there is no room -/

/-- For the only child of a quote the loop makes a call of its own. -/
theorem loopedConvert_quote (plain : c.overrides = []) (n : Node) (frames : Nat) (key : String) :
    loopedConvert c frames (.branch "blockquote" [n]) key = (do
      call c frames
      within c.settings.maxDepth (do
        call c (frames + 1)
        call c (frames + 2)
        let m? ← loopedConvert c (frames + 3) n "0"
        return some (.element (.name "blockquote") [("key", .string key)] m?.toList))) := by
  let quote : Node := .branch "blockquote" [n]
  have handled : quote.handling = .generic := rfl
  have calls : callsToLoop quote = 3 := rfl
  have tag : quote.tag? c.overrides = some (.name "blockquote") := by
    rw [plain]
    rfl
  have props : propsOf c quote key = pure [("key", .string key)] := by
    unfold propsOf
    rw [plain]
    rfl
  change loopedConvert c frames quote key = _
  rw [loopedConvert_eq, if_neg (by simp [quote, Node.branch, Node.isText]), calls, loopedRender,
    handled]
  dsimp only
  rw [loopedGeneric, tag, Node.rewritten_of_generic handled]
  dsimp only
  rw [props]
  simp only [loopedConvertEach, collectEach, loopedContent, quote, Node.branch, Node.childList,
    Option.getD_some, bind_assoc, pure_bind, List.append_nil]
  rfl

/-- The loop makes three calls for a quote. By induction on the number of quotes, from the outermost
one inwards; none of them is the outermost node. -/
theorem failsAt_looped_quoted {limit frames depth k : Nat} {n : Node} (plain : c.overrides = [])
    (limited : c.stackLimit = some limit) (full : limit < frames + 3 * k) (inside : depth ≠ 0)
    (shallow : depth + k ≤ c.settings.maxDepth) (key : String) :
    FailsAt depth .stackExhausted (loopedConvert c frames (.quoted k n) key) := by
  induction k generalizing frames depth key with
  | zero =>
    have refused : call c frames = throw .stackExhausted := by
      rw [call, limited]
      exact if_pos full
    rw [loopedConvert_eq, refused]
    exact (FailsAt.throw depth _).bind _
  | succ k ih =>
    rw [Node.quoted, loopedConvert_quote plain]
    have inner : FailsAt (depth + 1) .stackExhausted
        (loopedConvert c (frames + 3) (.quoted k n) "0") :=
      ih (by omega) (Nat.succ_ne_zero depth) (by omega) "0"
    have passed : reported c.settings.maxDepth depth
        (.error .stackExhausted : Except Failure (Option Markup)) = .error .stackExhausted :=
      if_neg inside
    exact .call c frames (.within (by omega) passed (.call c _ (.call c _ (inner.bind _))))

/-- A reference in 340 block quotes is reached on the usual stack, but not by the loop. -/
theorem quotes_exhaust_loop :
    let converter := Converter.new [] [] { maxDepth := 1000, strictReferences := true }
    let reference : Node := { kind := "linkReference", identifier := some "x" }
    let document := Node.quoted 340 reference
    (converter.convert document none).1.1 = .error (.unresolved "linkReference" (some "x")) ∧
      (converter.loopedConvert document none).1.1 = .error (.tooDeep 1000) := by
  intro converter reference document
  let c : Context := { settings := { maxDepth := 1000, strictReferences := true } }
  constructor
  · have room (limit : Nat) (has : limit ∈ c.stackLimit) : 0 + 2 * 340 ≤ limit := by
      cases has
      decide
    have inner : FailsAt (0 + 340) (.unresolved "linkReference" (some "x"))
        (convert c (0 + 2 * 340) reference "0") :=
      failsAt_of_run (by with_unfolding_all rfl)
    have outer : FailsAt 0 (.unresolved "linkReference" (some "x")) (convert c 0 document "0") :=
      failsAt_quoted rfl rfl (by decide) room (by decide) inner
    obtain ⟨q, run⟩ := outer []
    exact start_fst_eq.2 ⟨q, run⟩
  · have inner : FailsAt 1 .stackExhausted (loopedConvert c 3 (.quoted 339 reference) "0") :=
      failsAt_looped_quoted rfl rfl (by decide) (by decide) (by decide) "0"
    have outer : FailsAt 0 (.tooDeep 1000) (loopedConvert c 0 document "0") := by
      rw [show document = .branch "blockquote" [.quoted 339 reference] from rfl,
        loopedConvert_quote rfl, call_zero, pure_bind]
      exact .within (by decide) rfl (.call c _ (.call c _ (inner.bind _)))
    obtain ⟨q, run⟩ := outer []
    exact start_fst_eq.2 ⟨q, run⟩

end Conversion

end MarkdownTree
