import MarkdownTree.Conversion.Session
import MarkdownTree.Proofs.Conversion.Comparison

/-!
# Converters carry nothing over

A converter is used for any number of operations, each of which can fail at any depth. Between two
operations it is outside of all nodes, and the only trace that an operation leaves behind is the
definition that it sets. What an operation does is therefore what it does on a new converter that
has the definitions in force at that moment.

`Idle` is the state between operations. One operation keeps it, because every conversion is framed:
it leaves the depth as it found it, whether it succeeds or fails.
-/

namespace MarkdownTree.Converter

/-- What a converter can be asked to do. -/
inductive Operation where
  | define (key : Option String) (d : Definition)
  | convert (n : Node) (key : Option String)
  | convertEach (nodes : List Node)

/-- What an operation gives: a conversion its result or failure, and its warnings. -/
inductive Outcome where
  | defined
  | converted (run : Except Failure (Option Markup) × List Warning)
  | convertedEach (run : Except Failure (List Markup) × List Warning)

namespace Operation

/-- Performs an operation. -/
def perform (converter : Converter) : Operation → Outcome × Converter
  | .define key d => (.defined, converter.define key d)
  | .convert n key =>
    let (run, converter) := converter.convert n key
    (.converted run, converter)
  | .convertEach nodes =>
    let (run, converter) := converter.convertEach nodes
    (.convertedEach run, converter)

/-- The definitions in force after an operation. -/
def amend (definitions : Entries (Option String) Definition) :
    Operation → Entries (Option String) Definition
  | .define key d => Entries.set definitions key d
  | .convert _ _ => definitions
  | .convertEach _ => definitions

end Operation

/-- The converter after several operations. -/
def after (converter : Converter) (operations : List Operation) : Converter :=
  operations.foldl (fun converter operation => (operation.perform converter).2) converter

/-- The definitions in force after several operations. -/
def inForce (definitions : Entries (Option String) Definition) (operations : List Operation) :
    Entries (Option String) Definition :=
  operations.foldl Operation.amend definitions

/-- The converter is outside of all nodes. -/
def Idle (converter : Converter) : Prop := converter.progress.depth = 0

variable {converter : Converter} {m : Conversion α}

open Conversion

/-- On an idle converter a framed conversion does what it does at its start, and the converter is
idle again. -/
theorem run_of_idle (idle : converter.Idle) (framed : Framed m) :
    converter.run m = (start m, { converter with progress := ⟨0, (start m).2⟩ }) := by
  have fresh : { converter.progress with warnings := [] } = (⟨0, []⟩ : Progress) :=
    congrArg (Progress.mk · []) idle
  have run : StateT.run (ExceptT.run m) ⟨0, []⟩ = ((start m).1, ⟨0, (start m).2⟩) :=
    framed.run_eq_start []
  rw [Converter.run, fresh, run]

/-- One operation: its outcome is that of a new converter with the same tables, and it leaves an
idle converter in which nothing but the definitions has changed. -/
theorem perform_of_idle (idle : converter.Idle) (operation : Operation) :
    (operation.perform converter).1 = (operation.perform { context := converter.context }).1 ∧
      (operation.perform converter).2.Idle ∧
      (operation.perform converter).2.context = { converter.context with
        definitions := operation.amend converter.context.definitions } := by
  have new : Idle { context := converter.context } := rfl
  cases operation with
  | define key d => exact ⟨rfl, idle, rfl⟩
  | convert n key =>
      have framed := Framed.convert converter.context 0 n (key.getD "0")
      simp only [Operation.perform, convert, convertNode, run_of_idle idle framed,
        run_of_idle new framed]
      exact ⟨trivial, rfl, rfl⟩
  | convertEach nodes =>
      have framed := Framed.convertEach converter.context 0 nodes
      simp only [Operation.perform, convertEach, run_of_idle idle framed, run_of_idle new framed]
      exact ⟨trivial, rfl, rfl⟩

/-- Several operations, by induction on them. -/
theorem after_of_idle (idle : converter.Idle) (operations : List Operation) :
    (converter.after operations).Idle ∧
      (converter.after operations).context = { converter.context with
        definitions := inForce converter.context.definitions operations } := by
  induction operations generalizing converter with
  | nil => exact ⟨idle, rfl⟩
  | cons operation operations ih =>
      obtain ⟨_, idle', context⟩ := perform_of_idle idle operation
      obtain ⟨idle'', context'⟩ := ih idle'
      refine ⟨idle'', context'.trans ?_⟩
      rw [context]
      rfl

/-- Whatever operations a converter has performed before, and however they have ended, it is
outside of all nodes, and the next operation has the outcome and the warnings that it has on a new
converter with the definitions in force. -/
theorem performs_as_new (definitions : Entries (Option String) Definition) (overrides : Overrides)
    (settings : Settings) (stackLimit : Option Nat) (before : List Operation)
    (operation : Operation) :
    let new (definitions : Entries (Option String) Definition) : Converter :=
      { context := { definitions, overrides, settings, stackLimit } }
    let used := (new definitions).after before
    used.progress.depth = 0 ∧
      (operation.perform used).1 = (operation.perform (new (inForce definitions before))).1 := by
  intro new used
  have fresh : (new definitions).Idle := rfl
  obtain ⟨idle, context⟩ := after_of_idle fresh before
  obtain ⟨outcome, _, _⟩ := perform_of_idle idle operation
  refine ⟨idle, outcome.trans ?_⟩
  rw [context]

end MarkdownTree.Converter
