import MarkdownTree.Proofs.Cli.Steps

/-!
# Runs of the render command

The command loads the settings, finds the documents and renders them in order. `Course` lists what
this can come to, and `course_render` says that nothing else happens.
-/

namespace MarkdownTree.Cli

open Files (Path Tree)

/-- A list has the property throughout, or there is a first member without it. -/
theorem forall_or_exists_first {α : Type} (P : α → Prop) (l : List α) :
    (∀ a ∈ l, P a) ∨
      ∃ before a after, l = before ++ a :: after ∧ (∀ b ∈ before, P b) ∧ ¬ P a := by
  induction l with
  | nil => exact .inl (by simp)
  | cons a l ih =>
    by_cases own : P a
    · rcases ih with all | ⟨before, b, after, rfl, earlier, first⟩
      · exact .inl (List.forall_mem_cons.2 ⟨own, all⟩)
      · exact .inr ⟨a :: before, b, after, rfl, List.forall_mem_cons.2 ⟨own, earlier⟩, first⟩
    · exact .inr ⟨[], a, l, rfl, by simp, own⟩

/-! ### Runs of the command -/

/-- What a run comes to when it has ended. -/
def outcomeOf : Except Ending Unit × Progress → Outcome
  | (.ok (), s) => ⟨.done, s.out, s.err, s.files⟩
  | (.error ending, s) => ⟨ending, s.out, s.err, s.files⟩

theorem run_eq {files : Tree} {environment : Entries String String} {args : List String}
    {call : Invocation} {stackLimit : Option Nat}
    (invoked : Invocation.ofArguments args = .ok call) :
    run files environment args stackLimit = .ok (outcomeOf
      ((match call.command with
        | .render => render stackLimit environment call
        | .ast => ast stackLimit environment call : Run Unit) { files })) := by
  have ended (r : Except Ending Unit × Progress) :
      (match r with
        | (.ok (), p) => .ok ⟨.done, p.out, p.err, p.files⟩
        | (.error ending, p) => .ok ⟨ending, p.out, p.err, p.files⟩ : Except UsageFault Outcome) =
      .ok (outcomeOf r) := by
    rcases r with ⟨_ | _, p⟩ <;> rfl
  rw [run, invoked]
  exact ended _

theorem run_render {files : Tree} {environment : Entries String String} {args : List String}
    {call : Invocation} {stackLimit : Option Nat}
    (invoked : Invocation.ofArguments args = .ok call) (rendering : call.command = .render) :
    run files environment args stackLimit =
      .ok (outcomeOf (render stackLimit environment call { files })) := by
  rw [run_eq invoked, rendering]

/-- What is said when all documents are written. -/
def summary (settings : Settings) (count : Nat) : String :=
  s!"Rendered {count} document(s) to {(directory settings).text}/"

section runs

variable {files : Tree} {environment : Entries String String} {call : Invocation}
  {settings : Settings} {stackLimit : Option Nat}

theorem render_of_not_loaded
    (unloaded : ∀ settings, loading files environment call.fields stackLimit ≠ .done settings) :
    render stackLimit environment call { files } =
      ((loading files environment call.fields stackLimit).map fun _ => ()).after { files } := by
  have load := loadSettings_run stackLimit environment call.fields { files }
  rw [render]
  cases ended : loading files environment call.fields stackLimit with
  | done settings => exact (unloaded settings ended).elim
  | failed report =>
    rw [ended] at load
    exact bind_of_error load
  | escaped cause =>
    rw [ended] at load
    exact bind_of_error load

variable (loaded : loading files environment call.fields stackLimit = .done settings)

include loaded

/-- The search for documents can break the run off. -/
theorem render_of_unsearchable {fault : Files.Fault}
    (broken : files.searchFault? (.ofText call.path) stackLimit = some fault) :
    render stackLimit environment call { files } =
      (.error (.escaped (.file fault)), { files }) := by
  have load := loadSettings_run stackLimit environment call.fields { files }
  rw [loaded] at load
  have state : (get : Run Progress) { files } = (.ok { files }, { files }) := rfl
  rw [render, bind_of_ok load]
  dsimp only
  rw [bind_of_ok state]
  dsimp only
  rw [broken]
  rfl

variable (searched : files.searchFault? (.ofText call.path) stackLimit = none)

include searched

theorem render_of_nothing (nothing : files.discover (.ofText call.path) = []) :
    render stackLimit environment call { files } =
      (.error .failed,
        { out := "No .md/.mdx files found at " ++ call.path ++ "." ++ "\n", files }) := by
  have load := loadSettings_run stackLimit environment call.fields { files }
  rw [loaded] at load
  have state : (get : Run Progress) { files } = (.ok { files }, { files }) := rfl
  have said (line : String) :
      (say line) { files } = (.ok (), { out := line ++ "\n", files }) := by
    rw [← String.empty_append (s := line)]
    rfl
  rw [render, bind_of_ok load]
  dsimp only
  rw [bind_of_ok state]
  dsimp only
  rw [searched]
  dsimp only
  rw [if_pos (by rw [nothing]; rfl), bind_of_ok (said _)]
  rfl

/-- Once documents are found they are rendered one after the other. -/
theorem render_of_found (found : files.discover (.ofText call.path) ≠ []) :
    render stackLimit environment call { files } =
      ((files.discover (.ofText call.path)).forM (renderFile stackLimit call.verbose settings) >>=
        fun _ => say (summary settings (files.discover (.ofText call.path)).length)) { files } := by
  have load := loadSettings_run stackLimit environment call.fields { files }
  rw [loaded] at load
  have state : (get : Run Progress) { files } = (.ok { files }, { files }) := rfl
  rw [render, bind_of_ok load]
  dsimp only
  rw [bind_of_ok state]
  dsimp only
  rw [searched]
  dsimp only
  rw [if_neg (by simpa using found)]
  rfl

theorem exists_render_of_done (wf : files.WellFormed)
    (found : files.discover (.ofText call.path) ≠ [])
    (done : ∀ p ∈ files.discover (.ofText call.path),
      ∃ m, fate files settings p stackLimit = .done m) :
    ∃ log t, (call.verbose = false → log = "") ∧
      Written files settings stackLimit (files.discover (.ofText call.path)) t ∧
      render stackLimit environment call { files } =
        (.ok (),
          { out := String.join ((files.discover (.ofText call.path)).map (line settings)) ++
              summary settings (files.discover (.ofText call.path)).length ++ "\n"
            err := log
            files := t }) := by
  have fresh : Written files settings stackLimit [] { files : Progress }.files := .nothing
  obtain ⟨log, t, quiet, written, run⟩ := exists_forM_of_done call.verbose
    (fun p => Tree.leadsTo_of_mem_discover wf) done fresh
  refine ⟨log, t, quiet, written, ?_⟩
  rw [render_of_found loaded searched found, bind_of_ok run, String.empty_append,
    String.empty_append]
  rfl

theorem exists_render_of_stopped (wf : files.WellFormed) {before after : List Path} {p : Path}
    (split : files.discover (.ofText call.path) = before ++ p :: after)
    (done : ∀ p' ∈ before, ∃ m, fate files settings p' stackLimit = .done m)
    (stopped : ∀ m, fate files settings p stackLimit ≠ .done m) :
    ∃ log t, (call.verbose = false → log = "") ∧ Left files settings stackLimit before t ∧
      render stackLimit environment call { files } =
        ((fate files settings p stackLimit).map fun _ => ()).after
          { out := String.join (before.map (line settings)), err := log, files := t } := by
  have found : files.discover (.ofText call.path) ≠ [] := by simp [split]
  have leads (p' : Path) (member : p' ∈ before ++ p :: after) : ∃ q, files.LeadsTo p' q :=
    Tree.leadsTo_of_mem_discover wf (split ▸ member)
  obtain ⟨log, t, quiet, left, run⟩ := exists_forM_of_stopped call.verbose leads done stopped
    (s := { files }) rfl
  refine ⟨log, t, quiet, left, ?_⟩
  rw [← split, String.empty_append, String.empty_append] at run
  rw [render_of_found loaded searched found]
  cases ended : fate files settings p stackLimit with
  | done m => exact (stopped m ended).elim
  | failed report =>
    rw [ended] at run
    exact bind_of_error run
  | escaped cause =>
    rw [ended] at run
    exact bind_of_error run

end runs

/-- What the render command can come to, judged by the files that are there at first. -/
inductive Course (files : Tree) (environment : Entries String String) (call : Invocation)
    (stackLimit : Option Nat) : Except Ending Unit × Progress → Prop
  /-- There are no settings. -/
  | unset
      (unloaded : ∀ settings, loading files environment call.fields stackLimit ≠ .done settings) :
      Course files environment call stackLimit
        (((loading files environment call.fields stackLimit).map fun _ => ()).after { files })
  /-- The documents cannot be searched for. -/
  | unsearchable {settings : Settings} {fault : Files.Fault}
      (loaded : loading files environment call.fields stackLimit = .done settings)
      (broken : files.searchFault? (.ofText call.path) stackLimit = some fault) :
      Course files environment call stackLimit (.error (.escaped (.file fault)), { files })
  /-- There are no documents. -/
  | nothing {settings : Settings}
      (loaded : loading files environment call.fields stackLimit = .done settings)
      (searched : files.searchFault? (.ofText call.path) stackLimit = none)
      (nothing : files.discover (.ofText call.path) = []) :
      Course files environment call stackLimit
        (.error .failed,
          { out := "No .md/.mdx files found at " ++ call.path ++ "." ++ "\n", files })
  /-- All documents are written. -/
  | done {settings : Settings} {log : String} {t : Tree}
      (loaded : loading files environment call.fields stackLimit = .done settings)
      (searched : files.searchFault? (.ofText call.path) stackLimit = none)
      (all : ∀ p ∈ files.discover (.ofText call.path),
        ∃ m, fate files settings p stackLimit = .done m)
      (quiet : call.verbose = false → log = "")
      (written : Written files settings stackLimit (files.discover (.ofText call.path)) t) :
      Course files environment call stackLimit
        (.ok (),
          { out := String.join ((files.discover (.ofText call.path)).map (line settings)) ++
              summary settings (files.discover (.ofText call.path)).length ++ "\n"
            err := log
            files := t })
  /-- A document is not written; those before it are. -/
  | stopped {settings : Settings} {before after : List Path} {p : Path} {log : String} {t : Tree}
      (loaded : loading files environment call.fields stackLimit = .done settings)
      (searched : files.searchFault? (.ofText call.path) stackLimit = none)
      (split : files.discover (.ofText call.path) = before ++ p :: after)
      (earlier : ∀ p' ∈ before, ∃ m, fate files settings p' stackLimit = .done m)
      (stopped : ∀ m, fate files settings p stackLimit ≠ .done m)
      (quiet : call.verbose = false → log = "")
      (left : Left files settings stackLimit before t) :
      Course files environment call stackLimit
        (((fate files settings p stackLimit).map fun _ => ()).after
          { out := String.join (before.map (line settings)), err := log, files := t })

theorem course_render {files : Tree} (wf : files.WellFormed)
    (environment : Entries String String) (call : Invocation) (stackLimit : Option Nat) :
    Course files environment call stackLimit (render stackLimit environment call { files }) := by
  by_cases loads : ∃ settings, loading files environment call.fields stackLimit = .done settings
  · obtain ⟨settings, loaded⟩ := loads
    cases searched : files.searchFault? (.ofText call.path) stackLimit with
    | some fault =>
      rw [render_of_unsearchable loaded searched]
      exact .unsearchable loaded searched
    | none =>
      by_cases nothing : files.discover (.ofText call.path) = []
      · rw [render_of_nothing loaded searched nothing]
        exact .nothing loaded searched nothing
      · rcases forall_or_exists_first (fun p => ∃ m, fate files settings p stackLimit = .done m)
            (files.discover (.ofText call.path)) with
          all | ⟨before, p, after, split, earlier, first⟩
        · obtain ⟨log, t, quiet, written, run⟩ :=
            exists_render_of_done loaded searched wf nothing all
          rw [run]
          exact .done loaded searched all quiet written
        · have stopped (m) (done : fate files settings p stackLimit = .done m) : False :=
            first ⟨m, done⟩
          obtain ⟨log, t, quiet, left, run⟩ :=
            exists_render_of_stopped loaded searched wf split earlier stopped
          rw [run]
          exact .stopped loaded searched split earlier stopped quiet left
  · have unloaded (settings)
        (loaded : loading files environment call.fields stackLimit = .done settings) : False :=
      loads ⟨settings, loaded⟩
    rw [render_of_not_loaded unloaded]
    exact .unset unloaded

end MarkdownTree.Cli
