import MarkdownTree.Conversion.Session
import MarkdownTree.Proofs.Conversion.Comparison
import MarkdownTree.Rendering

/-!
# Strict references

The settings decide whether a reference without a definition is a failure or a warning. Nothing
else depends on that choice: a strict run ends where a lenient run of the same conversion gives
its first warning, with the failure that names the reference of this warning, and it ends like
the lenient run if there is none. The warnings of a lenient run that fails count as well, so a
failure behind the first warning is never the one that a strict run reports.

`FirstWarning` is this relation between two steps at any depth. It is a `Comparison`, for which
only the resolution of references needs an argument of its own.
-/

namespace MarkdownTree

/-- The settings with the given choice for references without a definition. -/
def Settings.withStrict (s : Settings) (strict : Bool) : Settings :=
  { s with strictReferences := strict }

/-- The context with the given choice for references without a definition. -/
def Context.withStrict (c : Context) (strict : Bool) : Context :=
  { c with settings := c.settings.withStrict strict }

namespace Conversion

/-- The outcome of a run when the first of its warnings is a failure. -/
def failingAt : List Warning → Except Failure α → Except Failure α
  | [], r => r
  | w :: _, _ => .error (.unresolved w.kind w.identifier)

/-- A run of which nothing is left behind its first warning, which is a failure. -/
def endingAtWarning (run : Except Failure α × List Warning) : Except Failure α × List Warning :=
  (failingAt run.2 run.1, [])

/-- The strict step fails where the lenient one gives its first warning, and does the same as the
lenient one if there is none. -/
def FirstWarning (lenient strict : Conversion α) : Prop :=
  ∀ depth, ∃ r added, ∀ before,
    lenient ⟨depth, before⟩ = (r, ⟨depth, before ++ added⟩) ∧
      strict ⟨depth, before⟩ = (failingAt added r, ⟨depth, before⟩)

namespace FirstWarning

variable {α β : Type} {m m' : Conversion α} {f f' : α → Conversion β}

/-- A step that gives no warning is its own strict form. -/
theorem of_silent (r : Except Failure α) (run : ∀ p, m p = (r, p)) : FirstWarning m m :=
  fun depth => ⟨r, [], fun before => by rw [run, List.append_nil]; exact ⟨rfl, rfl⟩⟩

theorem bind (hm : FirstWarning m m') (hf : ∀ a, FirstWarning (f a) (f' a)) :
    FirstWarning (m >>= f) (m' >>= f') := by
  intro depth
  obtain ⟨r, added, run⟩ := hm depth
  cases r with
  | error e =>
      refine ⟨.error e, added, fun before => ⟨bind_of_error (run before).1, ?_⟩⟩
      cases added with
      | nil => exact bind_of_error (run before).2
      | cons w _ => exact bind_of_error (run before).2
  | ok a =>
      obtain ⟨r', added', run'⟩ := hf a depth
      refine ⟨r', added ++ added', fun before => ⟨?_, ?_⟩⟩
      · rw [bind_of_ok (run before).1, (run' _).1, List.append_assoc]
      · cases added with
        | nil =>
            rw [bind_of_ok (run before).2]
            exact (run' before).2
        | cons w _ => exact bind_of_error (run before).2

/-- A failure at a warning is no exhausted stack, so leaving the node does not change it. -/
theorem reported_failingAt (limit depth : Nat) (added : List Warning) (r : Except Failure α) :
    reported limit depth (failingAt added r) = failingAt added (reported limit depth r) := by
  cases added <;> rfl

theorem within (limit : Nat) (hm : FirstWarning m m') :
    FirstWarning (within limit m) (within limit m') := by
  intro depth
  by_cases deep : limit < depth + 1
  · refine ⟨.error (.tooDeep limit), [], fun before => ?_⟩
    rw [within_of_lt (p := ⟨depth, before⟩) deep, within_of_lt (p := ⟨depth, before⟩) deep,
      List.append_nil]
    exact ⟨rfl, rfl⟩
  · obtain ⟨r, added, run⟩ := hm (depth + 1)
    refine ⟨reported limit depth r, added, fun before => ⟨?_, ?_⟩⟩
    · rw [within_of_not_lt (p := ⟨depth, before⟩) deep (run before).1]
      rfl
    · rw [within_of_not_lt (p := ⟨depth, before⟩) deep (run before).2, reported_failingAt]
      rfl

theorem resolve (c : Context) (n : Node) :
    FirstWarning (resolve (c.withStrict false) n) (resolve (c.withStrict true) n) := by
  cases found : Entries.get? c.definitions n.identifier with
  | some d =>
      rw [resolve_of_some (c := c.withStrict false) found,
        resolve_of_some (c := c.withStrict true) found]
      exact of_silent (.ok d) fun _ => rfl
  | none =>
      rw [resolve_of_none (c := c.withStrict false) found,
        resolve_of_none (c := c.withStrict true) found]
      exact fun _ => ⟨.ok {}, [⟨n.kind, n.identifier⟩], fun _ => ⟨rfl, rfl⟩⟩

theorem dynamicProps (o : Override) (n : Node) :
    FirstWarning (dynamicProps o n) (dynamicProps o n) := by
  rcases dynamicProps_eq o n with ⟨fields, h⟩ | ⟨_, message, _, _, h⟩
  · exact h ▸ of_silent (.ok fields) fun _ => rfl
  · exact h ▸ of_silent (.error (.props message)) fun _ => rfl

theorem comparison (c : Context) :
    Comparison (c.withStrict false) (c.withStrict true) FirstWarning where
  overrides_eq := rfl
  pure a := of_silent (.ok a) fun _ => rfl
  bind := bind
  call frames := by
    change FirstWarning (call c frames) (call c frames)
    rcases call_eq c frames with h | h <;> rw [h]
    · exact of_silent (.ok ()) fun _ => rfl
    · exact of_silent (.error .stackExhausted) fun _ => rfl
  within := within _
  resolve := resolve c
  dynamicProps n o _ := dynamicProps o n

theorem convert (c : Context) (frames : Nat) (n : Node) (key : String) :
    FirstWarning (convert (c.withStrict false) frames n key)
      (convert (c.withStrict true) frames n key) := (comparison c).convert frames n key

theorem renderFootnotes (c : Context) (nodes : List Node) :
    FirstWarning (References.renderFootnotes (c.withStrict false) nodes)
      (References.renderFootnotes (c.withStrict true) nodes) :=
  (comparison c).renderFootnotes nodes

/-- The footnotes come first and then the tree, both under the definitions of the whole tree. -/
theorem renderTree (n : Node) (overrides : Overrides) (settings : Settings)
    (stackLimit : Option Nat) :
    FirstWarning
      (Rendering.renderTree n overrides (settings.withStrict false) stackLimit)
      (Rendering.renderTree n overrides (settings.withStrict true) stackLimit) := by
  let under (definitions : Entries (Option String) Definition) : Context :=
    { definitions, overrides, settings, stackLimit }
  have collected : FirstWarning
      (References.collect n overrides (settings.withStrict false) stackLimit)
      (References.collect n overrides (settings.withStrict true) stackLimit) :=
    bind (renderFootnotes (under (Gathered.ofTree n).definitions) _) fun _ =>
      of_silent (.ok _) fun _ => rfl
  refine bind collected fun references => ?_
  refine bind (convert (under references.definitions) 0 n "0") fun root => ?_
  exact of_silent (.ok _) fun _ => rfl

theorem start_eq (h : FirstWarning m m') : start m' = endingAtWarning (start m) := by
  obtain ⟨r, added, run⟩ := h 0
  have lenient : start m = (r, added) := by
    change ((m ⟨0, []⟩).1, (m ⟨0, []⟩).2.warnings) = _
    rw [(run []).1, List.nil_append]
  change ((m' ⟨0, []⟩).1, (m' ⟨0, []⟩).2.warnings) = _
  rw [(run []).2, lenient]
  rfl

end FirstWarning

/-- A strict rendering has no warnings. It fails with the first reference that the lenient
rendering warns about, whether the lenient one succeeds or fails later, and has the outcome of the
lenient one if that warns about none. The same holds of the conversion of a single node. -/
theorem strict_ends_at_first_warning (n : Node) (overrides : Overrides) (settings : Settings)
    (stackLimit : Option Nat) :
    start (Rendering.renderTree n overrides (settings.withStrict true) stackLimit) =
        endingAtWarning
          (start (Rendering.renderTree n overrides (settings.withStrict false) stackLimit)) ∧
      ∀ (definitions : Entries (Option String) Definition) (key : Option String),
        let c : Context := { definitions, overrides, settings, stackLimit }
        (Converter.convert { context := c.withStrict true } n key).1 =
          endingAtWarning (Converter.convert { context := c.withStrict false } n key).1 := by
  refine ⟨(FirstWarning.renderTree n overrides settings stackLimit).start_eq, ?_⟩
  intro definitions key c
  exact (FirstWarning.convert c 0 n (key.getD "0")).start_eq

end Conversion

end MarkdownTree
