import MarkdownTree.Conversion.Session
import MarkdownTree.Proofs.Conversion.Comparison

/-!
# Why conversions fail

`Cause` lists what can go wrong inside of a conversion, each with the reason in its context. A
conversion that starts outside of all nodes fails for one of these causes; an exhausted stack is
not among them, as the outermost node reports it as nodes that nest too deep.
-/

namespace MarkdownTree.Conversion

/-- What a conversion under `c` can fail with at some depth. -/
inductive Cause (c : Context) : Failure → Prop where
  | tooDeep : Cause c (.tooDeep c.settings.maxDepth)
  | stackExhausted : Cause c .stackExhausted
  | unresolved (n : Node) : c.settings.strictReferences = true →
      Entries.get? c.definitions n.identifier = none → Cause c (.unresolved n.kind n.identifier)
  | props {n : Node} {o : Override} {f : Node → Except String Fields} {message : String} :
      Entries.get? c.overrides n.kind = some o → o.dynamicProps = some f →
      f n = .error message → Cause c (.props message)

/-- The conversion fails for a cause in the context only. -/
def FailsBy (c : Context) (m : Conversion α) : Prop := ∀ p e q, m p = (.error e, q) → Cause c e

namespace FailsBy

variable {c : Context} {m : Conversion α} {f : α → Conversion β}

theorem pure (a : α) : FailsBy c (pure a) := by
  intro p e q run
  cases run

theorem throw {e : Failure} (h : Cause c e) : FailsBy c (throw e : Conversion α) := by
  intro p e' q run
  cases run
  exact h

theorem warn (w : Warning) : FailsBy c (warn w) := by
  intro p e q run
  cases run

theorem bind (hm : FailsBy c m) (hf : ∀ a, FailsBy c (f a)) : FailsBy c (m >>= f) := by
  intro p e r run
  rcases hr : m p with ⟨(e' | a), q⟩
  · rw [bind_of_error hr] at run
    cases run
    exact hm p _ _ hr
  · rw [bind_of_ok hr] at run
    exact hf a q e r run

theorem call (frames : Nat) : FailsBy c (call c frames) := by
  rcases call_eq c frames with h | h
  · exact h ▸ pure ()
  · exact h ▸ throw .stackExhausted

theorem cause_of_reported {depth : Nat} {x : Except Failure α} {e : Failure}
    (h : reported c.settings.maxDepth depth x = .error e) (cause : ∀ e, x = .error e → Cause c e) :
    Cause c e := by
  unfold reported at h
  split at h
  · split at h
    · cases h
      exact .tooDeep
    · exact cause e h
  · exact cause e h

theorem within (hm : FailsBy c m) : FailsBy c (within c.settings.maxDepth m) := by
  intro p e q run
  by_cases deep : c.settings.maxDepth < p.depth + 1
  · rw [within_of_lt deep] at run
    cases run
    exact .tooDeep
  · rcases hr : m { p with depth := p.depth + 1 } with ⟨x, q'⟩
    rw [within_of_not_lt deep hr] at run
    refine cause_of_reported (congrArg Prod.fst run) ?_
    rintro e' rfl
    exact hm _ e' q' hr

theorem resolve (n : Node) : FailsBy c (resolve c n) := by
  unfold Conversion.resolve
  split
  · exact pure _
  · next missing =>
    split
    · next strict => exact throw (.unresolved n strict missing)
    · exact bind (warn _) fun _ => pure _

theorem dynamicProps (n : Node) (o : Override) (own : Entries.get? c.overrides n.kind = some o) :
    FailsBy c (dynamicProps o n) := by
  rcases dynamicProps_eq o n with ⟨fields, h⟩ | ⟨f, message, computes, failed, h⟩
  · exact h ▸ pure fields
  · exact h ▸ throw (.props own computes failed)

theorem comparison (c : Context) : Comparison c c fun m _ => FailsBy c m where
  overrides_eq := rfl
  pure := pure
  bind := bind
  call := call
  within := within
  resolve := resolve
  dynamicProps := dynamicProps

end FailsBy

/-- The outermost node leaves no exhausted stack behind. -/
theorem ne_stackExhausted_of_within {limit : Nat} {m : Conversion α} {e : Failure} {q : Progress}
    (run : within limit m {} = (.error e, q)) : e ≠ .stackExhausted := by
  by_cases deep : limit < 0 + 1
  · rw [within_of_lt (p := {}) deep] at run
    cases run
    simp
  · rcases hm : m { depth := 0 + 1 } with ⟨x, q'⟩
    rw [within_of_not_lt (p := {}) deep hm] at run
    have left : reported limit 0 x = .error e := congrArg Prod.fst run
    rintro rfl
    unfold reported at left
    split at left
    · cases left
    · next other => exact other left

/-- A conversion that starts outside of all nodes has no failure but those of its context. -/
theorem cause_of_convert (c : Context) (n : Node) (key : Option String) {e : Failure}
    (run : (Converter.convert { context := c } n key).1.1 = .error e) :
    Cause c e ∧ e ≠ .stackExhausted := by
  obtain ⟨q, run⟩ : ∃ q, convert c 0 n (key.getD "0") {} = (.error e, q) := start_fst_eq.1 run
  refine ⟨(FailsBy.comparison c).convert 0 n _ _ _ _ run, ?_⟩
  rw [convert_eq, call_zero, pure_bind] at run
  split at run
  · cases run
  · exact ne_stackExhausted_of_within run

end MarkdownTree.Conversion
