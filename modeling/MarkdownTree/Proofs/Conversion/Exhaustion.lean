import MarkdownTree.Proofs.Conversion.Session
import MarkdownTree.Proofs.References

/-!
# Running out of stack

The stack can run out at any call that is made inside of a node, at any depth. `Interrupted` says
of a conversion that it is another one on such a stack: it may fail at each of its steps, in place
of everything that was still to come. Where it counts the calls, as `convert` does, it is
interrupted where more are active than its stack has room for.

The failure is passed on by every node but the outermost one, which reports it as nodes that nest
too deep. `Reports` is what this comes to outside of all nodes: the run ends as it does without a
limit or with that report, and it leaves no node unfinished. The step from one to the other is the
entering of an outermost node (`reports_within`); everything that is converted node by node, such as
the bodies of footnotes, follows from it (`InterruptedNodes`).
-/

namespace MarkdownTree

/-- The context with another limit of the stack. -/
def Context.withStack (c : Context) (stackLimit : Option Nat) : Context := { c with stackLimit }

/-- The converter on another stack. -/
def Converter.withStack (converter : Converter) (stackLimit : Option Nat) : Converter :=
  { converter with context := converter.context.withStack stackLimit }

namespace Conversion

/-- The second conversion is the first one on a stack that can run out at any step of it. Nodes are
entered and left under the given limit of nesting. -/
inductive Interrupted (limit : Nat) : {α : Type} → Conversion α → Conversion α → Prop where
  /-- There is room for the whole step. -/
  | whole {α : Type} {m : Conversion α} : Framed m → Interrupted limit m m
  /-- There is no room for the call that the step is. -/
  | exhausted {α : Type} (m : Conversion α) : Interrupted limit m (throw .stackExhausted)
  | bind {α β : Type} {m m' : Conversion α} {f f' : α → Conversion β} :
      Interrupted limit m m' → (∀ a, Interrupted limit (f a) (f' a)) →
      Interrupted limit (m >>= f) (m' >>= f')
  | within {α : Type} {m m' : Conversion α} :
      Interrupted limit m m' → Interrupted limit (within limit m) (within limit m')

/-- The second conversion does the same as the first one, or it fails for want of stack, which an
outermost node may have reported already. It leaves every node that it enters. -/
def CutShort (limit : Nat) (m m' : Conversion α) : Prop :=
  ∀ p, (m' p).2.depth = p.depth ∧
    (m' p = m p ∨ (m' p).1 = .error .stackExhausted ∨ (m' p).1 = .error (.tooDeep limit))

namespace CutShort

variable {limit : Nat} {m m' : Conversion α} {f f' : α → Conversion β}

theorem bind (first : CutShort limit m m') (second : ∀ a, CutShort limit (f a) (f' a)) :
    CutShort limit (m >>= f) (m' >>= f') := by
  intro p
  obtain ⟨left, ends⟩ := first p
  rcases run : m' p with ⟨e | a, q⟩
  · rw [run] at left ends
    rw [bind_of_error run]
    refine ⟨left, ends.imp (fun same => ?_) fun failed => ?_⟩
    · rw [bind_of_error same.symm]
    · simpa only [Except.error.injEq] using failed
  · rw [run] at left ends
    have same : m p = (.ok a, q) := by
      rcases ends with same | failed | failed
      · exact same.symm
      · cases failed
      · cases failed
    rw [bind_of_ok run, bind_of_ok same, ← show q.depth = p.depth from left]
    exact second a q

theorem within (inside : CutShort limit m m') :
    CutShort limit (within limit m) (within limit m') := by
  intro p
  by_cases deep : limit < p.depth + 1
  · rw [within_of_lt deep, within_of_lt deep]
    exact ⟨rfl, .inl rfl⟩
  · obtain ⟨left, ends⟩ := inside { p with depth := p.depth + 1 }
    rcases run : m' { p with depth := p.depth + 1 } with ⟨x, q⟩
    rw [run] at left ends
    rw [within_of_not_lt deep run]
    refine ⟨Nat.sub_eq_of_eq_add left, ?_⟩
    rcases ends with same | rfl | rfl
    · exact .inl (within_of_not_lt deep same.symm).symm
    · simp only [reported]
      split
      · exact .inr (.inr rfl)
      · exact .inr (.inl rfl)
    · exact .inr (.inr rfl)

theorem of_interrupted (h : Interrupted limit m m') : CutShort limit m m' := by
  induction h with
  | whole framed =>
    intro p
    obtain ⟨r, added, run⟩ := framed p.depth
    exact ⟨congrArg (fun x => x.2.depth) (run p.warnings), .inl rfl⟩
  | exhausted m => exact fun p => ⟨rfl, .inr (.inl rfl)⟩
  | bind _ _ first second => exact first.bind second
  | within _ inside => exact inside.within

end CutShort

/-- Outside of all nodes, the second conversion ends as the first one does or with the report that
nodes nest too deep. It never fails for want of stack, and it is outside of all nodes again. -/
def Reports (limit : Nat) (m m' : Conversion α) : Prop :=
  ∀ p, p.depth = 0 → (m' p).2.depth = 0 ∧ (m' p).1 ≠ .error .stackExhausted ∧
    (m' p = m p ∨ (m' p).1 = .error (.tooDeep limit))

namespace Reports

variable {limit : Nat} {m m' : Conversion α} {f f' : α → Conversion β}

theorem pure (a : α) : Reports limit (pure a) (pure a) :=
  fun _ outside => ⟨outside, nofun, .inl rfl⟩

theorem bind (first : Reports limit m m') (second : ∀ a, Reports limit (f a) (f' a)) :
    Reports limit (m >>= f) (m' >>= f') := by
  intro p outside
  obtain ⟨left, caught, ends⟩ := first p outside
  rcases run : m' p with ⟨e | a, q⟩
  · rw [run] at left caught ends
    rw [bind_of_error run]
    refine ⟨left, fun failed => caught ?_, ends.imp (fun same => ?_) fun failed => ?_⟩
    · simpa only [Except.error.injEq] using failed
    · rw [bind_of_error same.symm]
    · simpa only [Except.error.injEq] using failed
  · rw [run] at left ends
    have same : m p = (.ok a, q) := by
      rcases ends with same | failed
      · exact same.symm
      · cases failed
    rw [bind_of_ok run, bind_of_ok same]
    exact second a q left

/-- An outermost node reports that its inside was cut short. -/
theorem reports_within (inside : CutShort limit m m') :
    Reports limit (within limit m) (within limit m') := by
  intro p outside
  obtain ⟨left, ends⟩ := inside.within p
  have caught : (Conversion.within limit m' p).1 ≠ .error .stackExhausted := by
    by_cases deep : limit < p.depth + 1
    · rw [within_of_lt deep]
      nofun
    · rcases run : m' { p with depth := p.depth + 1 } with ⟨x, q⟩
      rw [within_of_not_lt deep run, outside]
      unfold reported
      split
      · nofun
      · assumption
  refine ⟨left.trans outside, caught, ends.imp_right fun failed => ?_⟩
  exact failed.resolve_left caught

end Reports

/-- The second conversion is the first one on a stack that can run out at any step inside of a node.
Outside of all nodes there is room. -/
inductive InterruptedNodes (limit : Nat) : {α : Type} → Conversion α → Conversion α → Prop where
  | pure {α : Type} (a : α) : InterruptedNodes limit (pure a) (pure a)
  | bind {α β : Type} {m m' : Conversion α} {f f' : α → Conversion β} :
      InterruptedNodes limit m m' → (∀ a, InterruptedNodes limit (f a) (f' a)) →
      InterruptedNodes limit (m >>= f) (m' >>= f')
  | within {α : Type} {m m' : Conversion α} :
      Interrupted limit m m' → InterruptedNodes limit (within limit m) (within limit m')

theorem InterruptedNodes.reports {limit : Nat} {m m' : Conversion α}
    (h : InterruptedNodes limit m m') : Reports limit m m' := by
  induction h with
  | pure a => exact .pure a
  | bind _ _ first second => exact first.bind second
  | within inside => exact .reports_within (.of_interrupted inside)

theorem InterruptedNodes.collectEach {limit : Nat} {α β : Type}
    {g g' : Nat → α → Conversion (Option β)} {l : List α}
    (step : ∀ i a, InterruptedNodes limit (g i a) (g' i a)) (i : Nat) :
    InterruptedNodes limit (collectEach g i l) (collectEach g' i l) := by
  induction l generalizing i with
  | nil => exact pure []
  | cons a l ih => exact (step i a).bind fun _ => (ih (i + 1)).bind fun _ => pure _

/-! ### Counting calls -/

/-- What happens inside of a node that is converted on its own. -/
def inside (c : Context) (n : Node) (key : String) : Conversion (Option Markup) :=
  render c 0 n key (convertEach c (callsBetween n) n.rewritten.childList)

theorem convertNode_eq (c : Context) (n : Node) (key : String) :
    convertNode c n key =
      if n.isText then pure (n.value.map Markup.text)
      else within c.settings.maxDepth (inside c n key) := by
  rw [convertNode, convert_eq, call_zero, pure_bind, Nat.zero_add]
  rfl

variable (c : Context) (stack : Option Nat)

/-- Where calls are counted, a conversion is interrupted where there are too many of them. -/
theorem interrupted_comparison :
    Comparison (c.withStack none) (c.withStack stack) (Interrupted c.settings.maxDepth) where
  overrides_eq := rfl
  pure a := .whole (Framed.pure a)
  bind := .bind
  call frames := by
    rcases call_eq (c.withStack stack) frames with room | full
    · rw [room]
      exact .whole (Framed.pure ())
    · rw [full]
      exact .exhausted _
  within := .within
  resolve n := .whole (Framed.resolve _ n)
  dynamicProps n o _ := .whole (Framed.dynamicProps o n)

theorem interrupted_inside (n : Node) (key : String) :
    Interrupted c.settings.maxDepth (inside (c.withStack none) n key)
      (inside (c.withStack stack) n key) :=
  (interrupted_comparison c stack).render
    ((interrupted_comparison c stack).convertEach _ _) 0 n key

/-- The outermost call is always made, so its node is there to report what happens inside. -/
theorem interruptedNodes_convert (n : Node) (key : String) :
    InterruptedNodes c.settings.maxDepth (convert (c.withStack none) 0 n key)
      (convert (c.withStack stack) 0 n key) := by
  change InterruptedNodes _ (convertNode _ n key) (convertNode _ n key)
  rw [convertNode_eq, convertNode_eq]
  split
  · exact .pure _
  · exact .within (interrupted_inside c stack n key)

theorem reports_convert (n : Node) (key : String) :
    Reports c.settings.maxDepth (convert (c.withStack none) 0 n key)
      (convert (c.withStack stack) 0 n key) :=
  (interruptedNodes_convert c stack n key).reports

/-- The children of a footnote are converted one after the other, each outside of all nodes. -/
theorem interruptedNodes_footnoteBody (note : Node) :
    InterruptedNodes c.settings.maxDepth (References.footnoteBody (c.withStack none) note)
      (References.footnoteBody (c.withStack stack) note) := by
  unfold References.footnoteBody
  split
  · exact .pure _
  · exact .collectEach (fun i n => interruptedNodes_convert c stack n (toString i)) 0

theorem interruptedNodes_renderFootnotes (notes : List Node) :
    InterruptedNodes c.settings.maxDepth (References.renderFootnotes (c.withStack none) notes)
      (References.renderFootnotes (c.withStack stack) notes) := by
  induction notes with
  | nil => exact .pure []
  | cons note notes ih =>
    have first : InterruptedNodes c.settings.maxDepth
        (References.renderFootnote (c.withStack none) note)
        (References.renderFootnote (c.withStack stack) note) :=
      (interruptedNodes_footnoteBody c stack note).bind fun _ => .pure _
    exact first.bind fun _ => ih.bind fun _ => .pure _

theorem interruptedNodes_collect (doc : Node) (overrides : Overrides) (settings : Settings) :
    InterruptedNodes settings.maxDepth (References.collect doc overrides settings none)
      (References.collect doc overrides settings stack) := by
  let c := References.contextFor doc overrides settings none
  rw [References.collect_eq, References.collect_eq]
  exact (interruptedNodes_renderFootnotes c stack _).bind fun _ => .pure _

theorem interruptedNodes_renderTree (doc : Node) (overrides : Overrides) (settings : Settings) :
    InterruptedNodes settings.maxDepth (Rendering.renderTree doc overrides settings none)
      (Rendering.renderTree doc overrides settings stack) := by
  let c := References.contextFor doc overrides settings none
  rw [References.renderTree_eq, References.renderTree_eq]
  exact (interruptedNodes_renderFootnotes c stack _).bind fun _ =>
    (interruptedNodes_convert c stack doc "0").bind fun _ => .pure _

/-! ### Converters -/

/-- A run on a limited stack ends as the `free` one does, or with the report that nodes nest too
deep. The failure of the stack does not get out, and the converter is outside of all nodes. -/
structure EndsReported (maxDepth : Nat)
    (free limited : (Except Failure α × List Warning) × Converter) : Prop where
  outcome : limited.1 = free.1 ∨ limited.1.1 = .error (.tooDeep maxDepth)
  caught : limited.1.1 ≠ .error .stackExhausted
  idle : limited.2.Idle

theorem endsReported_of_reports {converter : Converter} (idle : converter.Idle) {maxDepth : Nat}
    {m m' : Conversion α} (h : Reports maxDepth m m') (stack stack' : Option Nat) :
    EndsReported maxDepth ((converter.withStack stack).run m)
      ((converter.withStack stack').run m') := by
  obtain ⟨left, caught, ends⟩ := h { converter.progress with warnings := [] } idle
  refine ⟨?_, caught, left⟩
  rcases ends with same | failed
  · exact .inl (congrArg (fun run => (run.1, run.2.warnings)) same)
  · exact .inr failed

/-- On a stack with any limit the conversion of a node by an idle converter ends as it does without
a limit or reports that nodes nest too deep; the failure of the stack never gets out, and no node is
left unfinished. The same holds wherever inside of the node the stack runs out, and of the body of
every footnote that a document shows as well as of collecting all of them. -/
theorem exhaustion_reported {converter : Converter} (idle : converter.Idle) (limit : Nat) :
    let free := converter.withStack none
    let limited := converter.withStack (some limit)
    let overrides := converter.context.overrides
    let settings := converter.context.settings
    (∀ n key, EndsReported settings.maxDepth (free.convert n key) (limited.convert n key)) ∧
      (∀ (n : Node) (key : String) handler, n.isText = false →
        Interrupted settings.maxDepth (inside free.context n key) handler →
        EndsReported settings.maxDepth (free.convert n (some key))
          (limited.run (within settings.maxDepth handler))) ∧
      ∀ doc : Node,
        (∀ note ∈ doc.shownFootnotes,
          let body (stack : Option Nat) := References.footnoteBody
            (References.contextFor doc overrides settings stack) (Gathered.labelled note)
          EndsReported settings.maxDepth (free.run (body none)) (limited.run (body (some limit))) ∧
            ∀ interrupted, InterruptedNodes settings.maxDepth (body none) interrupted →
              EndsReported settings.maxDepth (free.run (body none)) (limited.run interrupted)) ∧
        EndsReported settings.maxDepth (free.run (References.collect doc overrides settings none))
          (limited.run (References.collect doc overrides settings (some limit))) ∧
        ∀ interrupted,
          InterruptedNodes settings.maxDepth (References.collect doc overrides settings none)
            interrupted →
          EndsReported settings.maxDepth
            (free.run (References.collect doc overrides settings none))
            (limited.run interrupted) := by
  intro free limited overrides settings
  have ends {α : Type} {m m' : Conversion α} (h : InterruptedNodes settings.maxDepth m m') :
      EndsReported settings.maxDepth (free.run m) (limited.run m') :=
    endsReported_of_reports idle h.reports _ _
  refine ⟨fun n key => ?_, fun n key handler text interrupted => ?_, fun doc => ⟨?_, ?_, ?_⟩⟩
  · exact ends (interruptedNodes_convert converter.context (some limit) n _)
  · have entered : convertNode free.context n key =
        within settings.maxDepth (inside free.context n key) := by
      rw [convertNode_eq, text]
      rfl
    have outermost : InterruptedNodes settings.maxDepth (convertNode free.context n key)
        (within settings.maxDepth handler) := entered ▸ .within interrupted
    exact ends outermost
  · intro note _ body
    let c := References.contextFor doc overrides settings none
    exact ⟨ends (interruptedNodes_footnoteBody c (some limit) _), fun _ => ends⟩
  · exact ends (interruptedNodes_collect (some limit) doc overrides settings)
  · exact fun _ => ends

/-- A table with a row in which two nodes group a cell. -/
def groupedTable : Node :=
  .branch "table" [.branch "tableRow" [.branch "group" [.branch "group" [
    .branch "tableCell" [.leaf "text" "x"]]]]]

/-- The search for the cell alone takes more calls than there is room for. -/
theorem groupedTable_reported :
    let converter := Converter.new [] [] {}
    let free := converter.withStack none
    let limited := converter.withStack (some 6)
    let handler : Conversion (Option Markup) :=
      call free.context 1 >>= fun _ => throw .stackExhausted
    converter.Idle ∧ (free.convert groupedTable none).1.1.isOk = true ∧
      (limited.convert groupedTable none).1.1 = .error (.tooDeep 200) ∧
      EndsReported 200 (free.convert groupedTable none) (limited.convert groupedTable none) ∧
      Interrupted 200 (inside free.context groupedTable "0") handler ∧
      EndsReported 200 (free.convert groupedTable (some "0"))
        (limited.run (within 200 handler)) := by
  intro converter free limited handler
  have idle : converter.Idle := rfl
  obtain ⟨counted, anywhere, -⟩ := exhaustion_reported idle 6
  have ended := counted groupedTable none
  have ok : (free.convert groupedTable none).1.1.isOk = true := by decide +kernel
  have short : (limited.convert groupedTable none).1.1.isOk = false := by decide +kernel
  have interrupted : Interrupted 200 (inside free.context groupedTable "0") handler :=
    .bind (.whole (Framed.call free.context 1)) fun _ => .exhausted _
  refine ⟨idle, ok, ended.outcome.resolve_left fun same => ?_, ended, interrupted,
    anywhere groupedTable "0" handler rfl interrupted⟩
  rw [same, ok] at short
  cases short

end Conversion

end MarkdownTree
