import MarkdownTree.Proofs.Conversion.Steps
import MarkdownTree.References

/-!
# Comparing the conversions of one tree under two contexts

A `Comparison` is a relation between steps that sequencing and the entering of nodes respect, and
that holds of the steps that read the context: a call, the resolution of a reference, and the
props that an override computes. `Comparison.convert` then relates the conversions of every node, in
the same order of steps and with the same failures in between, so each property of this kind is
proved on single steps only.

`Framed` is the first use: every conversion leaves the depth as it found it and only adds
warnings, and what it does depends on nothing else of the progress.
-/

namespace MarkdownTree.Conversion

theorem resolve_of_some {c : Context} {n : Node} {d : Definition}
    (h : Entries.get? c.definitions n.identifier = some d) : resolve c n = pure d := by
  rw [resolve, h]

theorem resolve_of_none {c : Context} {n : Node}
    (h : Entries.get? c.definitions n.identifier = none) :
    resolve c n =
      if c.settings.strictReferences then throw (.unresolved n.kind n.identifier)
      else warn ⟨n.kind, n.identifier⟩ >>= fun _ => pure {} := by
  rw [resolve, h]

/-- The props that an override computes are there or fail, whatever the progress is. -/
theorem dynamicProps_eq (o : Override) (n : Node) :
    (∃ fields, dynamicProps o n = pure fields) ∨
      ∃ f message, o.dynamicProps = some f ∧ f n = .error message ∧
        dynamicProps o n = throw (.props message) := by
  unfold dynamicProps
  split
  · exact .inl ⟨[], rfl⟩
  · next f own =>
    split
    · next fields _ => exact .inl ⟨fields, rfl⟩
    · next message failed => exact .inr ⟨f, message, own, failed, rfl⟩

/-- A relation between steps under `c` and under `c'` that carries over to whole conversions. -/
structure Comparison (c c' : Context) (Rel : {α : Type} → Conversion α → Conversion α → Prop) :
    Prop where
  overrides_eq : c'.overrides = c.overrides
  pure {α : Type} (a : α) : Rel (pure a) (pure a)
  bind {α β : Type} {m m' : Conversion α} {f f' : α → Conversion β} :
    Rel m m' → (∀ a, Rel (f a) (f' a)) → Rel (m >>= f) (m' >>= f')
  call (frames : Nat) : Rel (call c frames) (call c' frames)
  within {α : Type} {m m' : Conversion α} :
    Rel m m' → Rel (within c.settings.maxDepth m) (within c'.settings.maxDepth m')
  resolve (n : Node) : Rel (resolve c n) (resolve c' n)
  dynamicProps (n : Node) (o : Override) : Entries.get? c.overrides n.kind = some o →
    Rel (dynamicProps o n) (dynamicProps o n)

namespace Comparison

variable {c c' : Context} {Rel : {α : Type} → Conversion α → Conversion α → Prop}
variable (C : Comparison c c' Rel)

include C

theorem computedProps (n : Node) : Rel (computedProps c n) (computedProps c' n) := by
  unfold Conversion.computedProps
  split
  · exact C.pure _
  split
  · exact C.pure _
  split
  · exact C.bind (C.resolve n) fun _ => C.pure _
  split
  · exact C.pure _
  split
  · exact C.bind (C.resolve n) fun _ => C.pure _
  split
  · exact C.pure _
  split
  · exact C.pure _
  · exact C.pure _

theorem propsOf (n : Node) (key : String) : Rel (propsOf c n key) (propsOf c' n key) := by
  unfold Conversion.propsOf
  refine C.bind (C.computedProps n) fun computed => ?_
  rw [C.overrides_eq]
  cases own : Entries.get? c.overrides n.kind with
  | none => exact C.pure _
  | some o => exact C.bind (C.dynamicProps n o own) fun _ => C.pure _

section handlers

variable {body body' : Conversion (List Markup)} (h : Rel body body')

include h

theorem content (n : Node) : Rel (content n body) (content n body') := by
  unfold Conversion.content
  split
  · exact C.pure _
  · split
    · exact C.pure _
    · exact h
  · exact h

theorem generic (frames : Nat) (n : Node) (key : String) :
    Rel (generic c frames n key body) (generic c' frames n key body') := by
  unfold Conversion.generic
  refine C.bind (C.call _) fun _ => ?_
  rw [C.overrides_eq]
  split
  · exact C.pure _
  · refine C.bind (C.content h n) fun _ => ?_
    exact C.bind (C.propsOf n key) fun _ => C.pure _

theorem task (n : Node) (key : String) (done : Bool) :
    Rel (task c n key done body) (task c' n key done body') := by
  unfold Conversion.task
  rw [C.overrides_eq]
  refine C.bind (C.propsOf n key) fun _ => ?_
  exact C.bind h fun _ => C.pure _

omit h in
theorem code (n : Node) (key : String) : Rel (code c n key) (code c' n key) := by
  unfold Conversion.code
  rw [C.overrides_eq]
  exact C.bind (C.propsOf n key) fun _ => C.pure _

omit h in
theorem rawHtml (n : Node) (key : String) : Rel (rawHtml c n key) (rawHtml c' n key) := by
  unfold Conversion.rawHtml
  rw [C.overrides_eq]
  exact C.bind (C.propsOf n key) fun _ => C.pure _

theorem render (frames : Nat) (n : Node) (key : String) :
    Rel (render c frames n key body) (render c' frames n key body') := by
  unfold Conversion.render
  refine C.bind (C.call _) fun _ => ?_
  split
  · exact C.generic h _ n key
  · exact C.bind (C.call _) fun _ => C.code n key
  · exact C.bind (C.call _) fun _ => C.rawHtml n key
  · refine C.bind (C.call _) fun _ => ?_
    split
    · exact C.generic h _ n key
    · exact C.task h n key _
  · exact C.bind (C.call _) fun _ => C.generic h _ n.rewritten key

end handlers

theorem collectEach {α β : Type} {f f' : Nat → α → Conversion (Option β)} {l : List α}
    (step : ∀ i, ∀ a ∈ l, Rel (f i a) (f' i a)) (i : Nat) :
    Rel (collectEach f i l) (collectEach f' i l) := by
  induction l generalizing i with
  | nil => exact C.pure []
  | cons a l ih =>
      refine C.bind (step i a (by simp)) fun _ => ?_
      refine C.bind (ih (fun j a' member => step j a' (by simp [member])) (i + 1)) fun _ => ?_
      exact C.pure _

/-- By induction on the weight: the children of a rewritten node weigh less than the node. -/
theorem convert (frames : Nat) (n : Node) (key : String) :
    Rel (convert c frames n key) (convert c' frames n key) := by
  induction hw : n.weight using Nat.strongRecOn generalizing frames n key with
  | ind w ih =>
      rw [convert_eq, convert_eq]
      refine C.bind (C.call _) fun _ => ?_
      split
      · exact C.pure _
      · refine C.within (C.render (C.collectEach ?_ 0) frames n key)
        intro i d member
        exact ih d.weight (hw ▸ Node.weight_lt_of_mem_rewritten member) _ d _ rfl

theorem convertEach (frames : Nat) (nodes : List Node) :
    Rel (convertEach c frames nodes) (convertEach c' frames nodes) :=
  C.collectEach (fun _ n _ => C.convert frames n _) 0

theorem footnoteBody (n : Node) :
    Rel (References.footnoteBody c n) (References.footnoteBody c' n) := by
  unfold References.footnoteBody
  split
  · exact C.pure _
  · exact C.convertEach 0 _

theorem renderFootnote (n : Node) :
    Rel (References.renderFootnote c n) (References.renderFootnote c' n) :=
  C.bind (C.footnoteBody n) fun _ => C.pure _

theorem renderFootnotes (nodes : List Node) :
    Rel (References.renderFootnotes c nodes) (References.renderFootnotes c' nodes) := by
  induction nodes with
  | nil => exact C.pure []
  | cons n nodes ih =>
      exact C.bind (C.renderFootnote n) fun _ => C.bind ih fun _ => C.pure _

end Comparison

/-- A conversion that leaves the depth as it is and adds warnings behind those that are there.
What it gives and adds depends on the depth only. -/
def Framed (m : Conversion α) : Prop :=
  ∀ depth, ∃ r added, ∀ before,
    m ⟨depth, before⟩ = (r, ⟨depth, before ++ added⟩)

namespace Framed

variable {α β : Type} {m : Conversion α} {f : α → Conversion β}

theorem pure (a : α) : Framed (pure a) :=
  fun _ => ⟨.ok a, [], fun before => by rw [List.append_nil]; rfl⟩

theorem throw (e : Failure) : Framed (throw e : Conversion α) :=
  fun _ => ⟨.error e, [], fun before => by rw [List.append_nil]; rfl⟩

theorem warn (w : Warning) : Framed (warn w) := fun _ => ⟨.ok (), [w], fun _ => rfl⟩

theorem bind (hm : Framed m) (hf : ∀ a, Framed (f a)) : Framed (m >>= f) := by
  intro depth
  obtain ⟨r, added, run⟩ := hm depth
  cases r with
  | error e => exact ⟨.error e, added, fun before => bind_of_error (run before)⟩
  | ok a =>
      obtain ⟨r', added', run'⟩ := hf a depth
      refine ⟨r', added ++ added', fun before => ?_⟩
      rw [bind_of_ok (run before), run', List.append_assoc]

theorem call (c : Context) (frames : Nat) : Framed (call c frames) := by
  rcases call_eq c frames with h | h
  · exact h ▸ pure ()
  · exact h ▸ throw _

theorem within (limit : Nat) (hm : Framed m) : Framed (within limit m) := by
  intro depth
  by_cases deep : limit < depth + 1
  · refine ⟨.error (.tooDeep limit), [], fun before => ?_⟩
    rw [within_of_lt (p := ⟨depth, before⟩) deep, List.append_nil]
  · obtain ⟨r, added, run⟩ := hm (depth + 1)
    refine ⟨reported limit depth r, added, fun before => ?_⟩
    rw [within_of_not_lt (p := ⟨depth, before⟩) deep (run before)]
    rfl

theorem resolve (c : Context) (n : Node) : Framed (resolve c n) := by
  unfold Conversion.resolve
  split
  · exact pure _
  · split
    · exact throw _
    · exact bind (warn _) fun _ => pure _

theorem dynamicProps (o : Override) (n : Node) : Framed (dynamicProps o n) := by
  rcases dynamicProps_eq o n with ⟨fields, h⟩ | ⟨_, message, _, _, h⟩
  · exact h ▸ pure fields
  · exact h ▸ throw _

/-- Every step is framed on its own, so the relation looks at one side only. -/
theorem comparison (c : Context) : Comparison c c fun m _ => Framed m where
  overrides_eq := rfl
  pure := pure
  bind := bind
  call := call c
  within := within _
  resolve := resolve c
  dynamicProps n o _ := dynamicProps o n

theorem convert (c : Context) (frames : Nat) (n : Node) (key : String) :
    Framed (convert c frames n key) := (comparison c).convert frames n key

theorem convertEach (c : Context) (frames : Nat) (nodes : List Node) :
    Framed (convertEach c frames nodes) := (comparison c).convertEach frames nodes

theorem renderFootnote (c : Context) (n : Node) : Framed (References.renderFootnote c n) :=
  (comparison c).renderFootnote n

/-- A framed conversion outside of all nodes does what it does at the start. -/
theorem run_eq_start (hm : Framed m) (before : List Warning) :
    m ⟨0, before⟩ = ((start m).1, ⟨0, before ++ (start m).2⟩) := by
  obtain ⟨r, added, run⟩ := hm 0
  have fresh : start m = (r, added) := by
    change ((m ⟨0, []⟩).1, (m ⟨0, []⟩).2.warnings) = _
    rw [run, List.nil_append]
  rw [run, fresh]

end Framed

end MarkdownTree.Conversion
