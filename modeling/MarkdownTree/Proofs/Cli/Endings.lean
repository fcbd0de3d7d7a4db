import MarkdownTree.Proofs.Cli.Loading
import MarkdownTree.Proofs.Cli.Rendering
import MarkdownTree.Proofs.Conversion.Exhaustion
import MarkdownTree.Proofs.Files.Discovery
import MarkdownTree.Proofs.Files.Invariant
import MarkdownTree.Proofs.Files.Searching

/-!
# How runs end

A run that the arguments allow ends with success, with a message to the user, or it is broken off.
`Unprepared` lists all that breaks a run off: what the steps read or write is not a text, is a
directory or stands in the way, or there is something that cannot be read, searched or printed for
its depth or its length. Everything else ends cleanly (`run_ends`). However a run ends, the files
that it leaves form a well-formed tree again (`wellFormed_run`).
-/

namespace MarkdownTree

namespace Rendering

open Conversion

variable {n : Node} {settings : Settings} {stackLimit : Option Nat}

/-- Rendering a tree fails for a cause in its context. -/
theorem failsBy_renderTree (n : Node) (overrides : Overrides) (settings : Settings)
    (stackLimit : Option Nat) :
    FailsBy (References.contextFor n overrides settings stackLimit)
      (renderTree n overrides settings stackLimit) := by
  rw [References.renderTree_eq]
  refine FailsBy.bind ((FailsBy.comparison _).renderFootnotes _) fun footnotes => ?_
  refine FailsBy.bind ((FailsBy.comparison _).convert 0 n "0") fun root => ?_
  exact FailsBy.pure _

/-- Without overrides no computation of props can fail. -/
theorem ne_props_of_renderTree {e : Failure}
    (failed : (start (renderTree n [] settings stackLimit)).1 = .error e) (message : String) :
    e ≠ .props message := by
  rintro rfl
  obtain ⟨q, run⟩ := start_fst_eq.1 failed
  cases failsBy_renderTree n [] settings _ _ _ _ run with
  | props own _ _ => cases own

/-- A tree is rendered outside of all nodes, so an exhausted stack is always reported. -/
theorem ne_stackExhausted_of_renderTree {e : Failure}
    (failed : (start (renderTree n [] settings stackLimit)).1 = .error e) :
    e ≠ .stackExhausted := by
  rintro rfl
  exact ((interruptedNodes_renderTree stackLimit n [] settings).reports {} rfl).2.1 failed

/-- Without overrides a text cannot be read, or its conversion fails in another way. -/
theorem cause_of_render {position : Option Bool} {options : Fields} {text : String} {fault : Fault}
    (failed : (render settings position options (.accept []) text stackLimit).1 = .error fault) :
    (∃ unreadable, fault = .unreadable unreadable) ∨
      ∃ e, fault = .failed e ∧ (∀ message, e ≠ .props message) ∧ e ≠ .stackExhausted := by
  unfold render at failed
  split at failed
  · cases failed
    exact .inl ⟨_, rfl⟩
  · next n _ =>
    dsimp only [Check.toExcept, Check.accept] at failed
    cases run : (start (renderTree n [] settings stackLimit)).1 with
    | ok m => simp [run, Except.mapError] at failed
    | error e =>
      simp only [run, Except.mapError, Except.error.injEq] at failed
      exact .inr ⟨e, failed.symm, ne_props_of_renderTree run, ne_stackExhausted_of_renderTree run⟩

end Rendering

namespace Cli

open Files (Path Tree)

/-! ### Documents -/

/-- What breaks off rendering a document into a file. -/
inductive Obstacle (files : Tree) (settings : Settings) (p : Path) (stackLimit : Option Nat) :
    Files.Fault → Prop
  | document {fault : Files.Fault} (unreadable : files.Unreadable p fault) :
      Obstacle files settings p stackLimit fault
  | directory {m : Option Markup} {broken : Files.Breakdown}
      (rendered : Files.render files p settings (.accept []) stackLimit = .ok (.ok m))
      (unmade : files.makeDirectories (directory settings) stackLimit = .error broken) :
      Obstacle files settings p stackLimit broken.fault
  | output {m : Option Markup} {t : Tree} {fault : Files.Fault}
      (rendered : Files.render files p settings (.accept []) stackLimit = .ok (.ok m))
      (made : files.makeDirectories (directory settings) stackLimit = .ok t)
      (hindered : Hindered t settings p m stackLimit fault) :
      Obstacle files settings p stackLimit fault

section documents

variable {files : Tree} {settings : Settings} {p : Path} {q : List String}
  {stackLimit : Option Nat}

theorem render_eq_error_iff (leads : files.LeadsTo p q) {fault : Files.Fault} :
    Files.render files p settings (.accept []) stackLimit = .error fault ↔
      files.Unreadable p fault := by
  obtain ⟨c, there⟩ := leads.exists_at?
  rw [← Tree.readText_eq_error_iff there, Files.render]
  cases files.readText p with
  | error e => simp [bind, Except.bind]
  | ok text => simp [bind, Except.bind, pure, Except.pure]

/-- Every failure of a rendering without overrides has a message. -/
theorem exists_renderingMessage? {fault : Rendering.Fault}
    (failed : Files.render files p settings (.accept []) stackLimit = .ok (.error fault)) :
    ∃ message, renderingMessage? p fault = some message := by
  rw [Files.render] at failed
  cases read : files.readText p with
  | error e =>
    rw [read] at failed
    cases failed
  | ok text =>
    rw [read] at failed
    obtain ⟨unreadable, rfl⟩ | ⟨e, rfl, other, caught⟩ :=
      Rendering.cause_of_render (Except.ok.inj failed)
    · exact ⟨_, rfl⟩
    · cases e with
      | props message => exact (other message rfl).elim
      | stackExhausted => exact (caught rfl).elim
      | _ => exact ⟨_, rfl⟩

theorem fate_eq_escaped_iff (leads : files.LeadsTo p q) {cause : Escape} :
    fate files settings p stackLimit = .escaped cause ↔
      ∃ fault, cause = .file fault ∧ Obstacle files settings p stackLimit fault := by
  constructor
  · intro escaped
    unfold fate at escaped
    split at escaped
    · next fault unread =>
      cases escaped
      exact ⟨fault, rfl, .document ((render_eq_error_iff leads).1 unread)⟩
    · next e failed =>
      obtain ⟨message, named⟩ := exists_renderingMessage? failed
      rw [named] at escaped
      cases escaped
    · next m rendered =>
      cases made : files.makeDirectories (directory settings) stackLimit with
      | error broken =>
        rw [writing_of_unmade made] at escaped
        cases escaped
        exact ⟨_, rfl, .directory rendered made⟩
      | ok t =>
        rcases writing_cases leads.isName made m with ⟨fault, hindered, failed⟩ | ⟨_, _, ok⟩
        · rw [failed] at escaped
          cases escaped
          exact ⟨fault, rfl, .output rendered made hindered⟩
        · rw [ok] at escaped
          cases escaped
  · rintro ⟨fault, rfl, obstacle⟩
    cases obstacle with
    | document unreadable => rw [fate, (render_eq_error_iff leads).2 unreadable]
    | directory rendered unmade =>
      rw [fate, rendered]
      dsimp only
      rw [writing_of_unmade unmade]
    | output rendered made hindered =>
      rw [fate, rendered]
      dsimp only
      rw [writing_of_hindered made hindered]

end documents

/-! ### Runs -/

/-- What breaks a run off. -/
inductive Unprepared (files : Tree) (environment : Entries String String) (call : Invocation)
    (stackLimit : Option Nat) : Escape → Prop
  | settings {cause : Escape}
      (unloadable : Unloadable files environment call.fields stackLimit cause) :
      Unprepared files environment call stackLimit cause
  /-- The document whose tree is asked for is no text, or its path holds the null character. What
  the system itself reports is told to the user. -/
  | tree {settings : Settings} {fault : Files.Fault} (command : call.command = .ast)
      (loaded : loading files environment call.fields stackLimit = .done settings)
      (unreadable : files.Unreadable (.ofText call.path) fault)
      (other : fault.isOfSystem = false) :
      Unprepared files environment call stackLimit (.file fault)
  /-- The tree that is asked for nests too deep to be printed. -/
  | print {settings : Settings} {n : Node} (command : call.command = .ast)
      (loaded : loading files environment call.fields stackLimit = .done settings)
      (parsed : Files.parse files (.ofText call.path) settings.position settings.parserConfig
        stackLimit = .ok n)
      (deep : isPrintable n = false) : Unprepared files environment call stackLimit .printing
  /-- The documents cannot be searched for. -/
  | search {settings : Settings} {fault : Files.Fault} (command : call.command = .render)
      (loaded : loading files environment call.fields stackLimit = .done settings)
      (unsearchable : files.Unsearchable (.ofText call.path) stackLimit fault) :
      Unprepared files environment call stackLimit (.file fault)
  /-- The first document that is not written meets an obstacle. -/
  | document {settings : Settings} {before after : List Path} {p : Path} {fault : Files.Fault}
      (command : call.command = .render)
      (loaded : loading files environment call.fields stackLimit = .done settings)
      (searched : ∀ fault, ¬ files.Unsearchable (.ofText call.path) stackLimit fault)
      (split : files.discover (.ofText call.path) = before ++ p :: after)
      (earlier : ∀ p' ∈ before, ∃ m, fate files settings p' stackLimit = .done m)
      (obstacle : Obstacle files settings p stackLimit fault) :
      Unprepared files environment call stackLimit (.file fault)

/-- A run ends with success, or with a message of what is wrong. -/
def EndsCleanly (call : Invocation) (o : Outcome) : Prop :=
  o.ending = .done ∧ o.exitCode = 0 ∨
    o.ending = .failed ∧ o.exitCode = 1 ∧
      ((∃ log report, (call.verbose = false → log = "") ∧ o.err = log ++ "Error: " ++ report) ∨
        call.command = .render ∧ o.out = "No .md/.mdx files found at " ++ call.path ++ "." ++ "\n")

/-- An attempt that goes on with the result of another one. -/
def Attempt.bind (a : Attempt α) (f : α → Attempt β) : Attempt β :=
  match a with
  | .done r => f r
  | .failed report => .failed report
  | .escaped cause => .escaped cause

theorem Attempt.bind_eq_escaped_iff {a : Attempt α} {f : α → Attempt β} {cause : Escape} :
    a.bind f = .escaped cause ↔ a = .escaped cause ∨ ∃ r, a = .done r ∧ f r = .escaped cause := by
  cases a <;> simp [Attempt.bind]

theorem ending_after {a : Attempt α} {s : Progress} {cause : Escape} :
    (outcomeOf ((a.map fun _ => ()).after s)).ending = .escaped cause ↔ a = .escaped cause := by
  cases a <;> simp [Attempt.map, Attempt.after, outcomeOf]

theorem endsCleanly_after {call : Invocation} {a : Attempt α} {s : Progress}
    (quiet : call.verbose = false → s.err = "") (clean : ∀ cause, a ≠ .escaped cause) :
    EndsCleanly call (outcomeOf ((a.map fun _ => ()).after s)) := by
  cases a with
  | done r => exact .inl ⟨rfl, rfl⟩
  | failed report => exact .inr ⟨rfl, rfl, .inl ⟨s.err, report, quiet, rfl⟩⟩
  | escaped cause => exact (clean cause rfl).elim

section render

variable {files : Tree} {environment : Entries String String} {call : Invocation}
  {stackLimit : Option Nat}

theorem searchFault?_eq_none_iff (wf : files.WellFormed) :
    files.searchFault? (.ofText call.path) stackLimit = none ↔
      ∀ fault, ¬ files.Unsearchable (.ofText call.path) stackLimit fault := by
  simp only [← Tree.searchFault?_eq_some_iff wf]
  exact Option.eq_none_iff_forall_ne_some

theorem render_escapes_iff (wf : files.WellFormed) (command : call.command = .render)
    {cause : Escape} :
    (outcomeOf (render stackLimit environment call { files })).ending = .escaped cause ↔
      Unprepared files environment call stackLimit cause := by
  have leads {p : Path} (member : p ∈ files.discover (.ofText call.path)) :=
    Tree.leadsTo_of_mem_discover wf member
  constructor
  · intro escaped
    have course := course_render wf environment call stackLimit
    generalize render stackLimit environment call { files } = ended at course escaped
    cases course with
    | unset unloaded => exact .settings (loading_eq_escaped_iff.1 (ending_after.1 escaped))
    | unsearchable loaded broken =>
      cases escaped
      exact .search command loaded ((Tree.searchFault?_eq_some_iff wf).1 broken)
    | nothing loaded searched nothing => cases escaped
    | done loaded searched all quiet written => cases escaped
    | @stopped settings before after p log t loaded searched split earlier stopped quiet left =>
      obtain ⟨q, leads⟩ := leads (p := p) (by simp [split])
      obtain ⟨fault, rfl, obstacle⟩ := (fate_eq_escaped_iff leads).1 (ending_after.1 escaped)
      exact .document command loaded ((searchFault?_eq_none_iff wf).1 searched) split earlier
        obstacle
  · intro unprepared
    cases unprepared with
    | settings unloadable =>
      have broken := loading_eq_escaped_iff.2 unloadable
      rw [render_of_not_loaded (by simp [broken])]
      exact ending_after.2 broken
    | tree other loaded unreadable _ =>
      rw [command] at other
      cases other
    | print other loaded parsed _ =>
      rw [command] at other
      cases other
    | search _ loaded unsearchable =>
      rw [render_of_unsearchable loaded ((Tree.searchFault?_eq_some_iff wf).2 unsearchable)]
      rfl
    | @document settings before after p fault _ loaded searched split earlier obstacle =>
      obtain ⟨q, leads⟩ := leads (p := p) (by simp [split])
      have broken := (fate_eq_escaped_iff leads).2 ⟨fault, rfl, obstacle⟩
      obtain ⟨log, t, _, _, run⟩ := exists_render_of_stopped loaded
        ((searchFault?_eq_none_iff wf).2 searched) wf split earlier (by simp [broken])
      rw [run]
      exact ending_after.2 broken

theorem endsCleanly_render (wf : files.WellFormed) (command : call.command = .render)
    (clean : ∀ cause,
      (outcomeOf (render stackLimit environment call { files })).ending ≠ .escaped cause) :
    EndsCleanly call (outcomeOf (render stackLimit environment call { files })) := by
  have course := course_render wf environment call stackLimit
  generalize render stackLimit environment call { files } = ended at course clean ⊢
  cases course with
  | unset unloaded =>
    exact endsCleanly_after (fun _ => rfl) fun cause escaped =>
      clean cause (ending_after.2 escaped)
  | unsearchable loaded broken => exact (clean _ rfl).elim
  | nothing loaded searched nothing => exact .inr ⟨rfl, rfl, .inr ⟨command, rfl⟩⟩
  | done loaded searched all quiet written => exact .inl ⟨rfl, rfl⟩
  | stopped loaded searched split earlier stopped quiet left =>
    exact endsCleanly_after quiet fun cause escaped => clean cause (ending_after.2 escaped)

end render

/-- What printing the tree of the document at a path comes to. -/
def treeOf (files : Tree) (settings : Settings) (path : String) (stackLimit : Option Nat) :
    Attempt Node :=
  match Files.parse files (.ofText path) settings.position settings.parserConfig stackLimit with
  | .error (.file fault) =>
    if fault.isOfSystem then
      .failed (report ("Failed to parse " ++ path) (some (fault.message (.ofText path))))
    else .escaped (.file fault)
  | .error (.text source fault) =>
    .failed (report ("Failed to parse " ++ path) (some (Files.faultOf source fault.message)))
  | .ok n => if isPrintable n then .done n else .escaped .printing

section ast

variable {files : Tree} {environment : Entries String String} {call : Invocation}
  {stackLimit : Option Nat}

/-- A file that is not read makes no document. -/
theorem parse_eq_file_iff {settings : Settings} {p : Path} {fault : Files.Fault} :
    Files.parse files p settings.position settings.parserConfig stackLimit =
        .error (.file fault) ↔
      files.readText p = .error fault := by
  unfold Files.parse
  cases files.readText p with
  | error e => simp [Except.mapError, bind, Except.bind]
  | ok text =>
    simp only [Except.mapError, bind, Except.bind, reduceCtorEq, iff_false]
    cases Markdown.document settings.parserConfig [] settings.position text stackLimit <;> simp

theorem treeOf_of_unreadable {settings : Settings} {path : String} {fault : Files.Fault}
    (unread : files.readText (.ofText path) = .error fault) (other : fault.isOfSystem = false) :
    treeOf files settings path stackLimit = .escaped (.file fault) := by
  have failed : Files.parse files (.ofText path) settings.position settings.parserConfig
      stackLimit = .error (.file fault) := parse_eq_file_iff.2 unread
  unfold treeOf
  rw [failed]
  dsimp only
  rw [if_neg (by simp [other])]

theorem treeOf_of_parsed {settings : Settings} {path : String} {n : Node}
    (parsed : Files.parse files (.ofText path) settings.position settings.parserConfig stackLimit =
      .ok n) :
    treeOf files settings path stackLimit =
      if isPrintable n then .done n else .escaped .printing := by
  unfold treeOf
  rw [parsed]

theorem treeOf_eq_escaped_iff {settings : Settings} {path : String} {cause : Escape} :
    treeOf files settings path stackLimit = .escaped cause ↔
      (∃ fault, cause = .file fault ∧ files.Unreadable (.ofText path) fault ∧
        fault.isOfSystem = false) ∨
      ∃ n, cause = .printing ∧ isPrintable n = false ∧
        Files.parse files (.ofText path) settings.position settings.parserConfig stackLimit =
          .ok n := by
  constructor
  · intro escaped
    unfold treeOf at escaped
    split at escaped
    · next fault failed =>
      split at escaped
      · cases escaped
      · next other =>
        cases escaped
        have other : fault.isOfSystem = false := by simpa using other
        have unread := parse_eq_file_iff.1 failed
        exact .inl ⟨fault, rfl,
          (Tree.readText_eq_error_iff_of_not_isOfSystem other).1 unread, other⟩
    · cases escaped
    · next n parsed =>
      split at escaped
      · cases escaped
      · next deep =>
        cases escaped
        exact .inr ⟨n, rfl, by simpa using deep, parsed⟩
  · rintro (⟨fault, rfl, unreadable, other⟩ | ⟨n, rfl, deep, parsed⟩)
    · exact treeOf_of_unreadable (Tree.readText_of_unreadable unreadable) other
    · rw [treeOf_of_parsed parsed, if_neg (by simp [deep])]

/-- The settings are loaded, and then the tree of the document is printed. -/
theorem exists_ast (files : Tree) (environment : Entries String String) (call : Invocation)
    (stackLimit : Option Nat) :
    ∃ s : Progress, (call.verbose = false → s.err = "") ∧ s.files = files ∧
      ast stackLimit environment call { files } =
        (((loading files environment call.fields stackLimit).bind fun settings =>
          treeOf files settings call.path stackLimit).map fun _ => ()).after s := by
  have load := loadSettings_run stackLimit environment call.fields { files }
  rw [ast]
  cases loaded : loading files environment call.fields stackLimit with
  | failed report =>
    rw [loaded] at load
    exact ⟨{ files }, fun _ => rfl, rfl, bind_of_error load⟩
  | escaped cause =>
    rw [loaded] at load
    exact ⟨{ files }, fun _ => rfl, rfl, bind_of_error load⟩
  | done settings =>
    rw [loaded] at load
    have state : (get : Run Progress) { files } = (.ok { files }, { files }) := rfl
    rw [bind_of_ok load, bind_of_ok state]
    dsimp only [Attempt.bind]
    cases parsed : Files.parse files (.ofText call.path) settings.position settings.parserConfig
      stackLimit with
    | error fault =>
      refine ⟨{ files }, fun _ => rfl, rfl, ?_⟩
      unfold treeOf
      rw [parsed]
      cases fault with
      | text source fault => exact fail_run _ _ _
      | file fault =>
        dsimp only
        split
        · exact fail_run _ _ _
        · rfl
    | ok n =>
      obtain ⟨log, quiet, logged⟩ := exists_log (logs_logDocument n) call.verbose
        (fun _ => if isPrintable n then say (Json.print Json.Style.tree n.toValue)
          else throw (.escaped .printing)) { files }
      have silent (h : call.verbose = false) : "" ++ log = "" := by rw [quiet h]; rfl
      rw [treeOf_of_parsed parsed]
      dsimp only
      generalize isPrintable n = printable at logged ⊢
      cases printable with
      | true => exact ⟨⟨_, "" ++ log, files⟩, silent, rfl, logged.trans rfl⟩
      | false => exact ⟨⟨"", "" ++ log, files⟩, silent, rfl, logged.trans rfl⟩

theorem ast_escapes_iff (command : call.command = .ast) {cause : Escape} :
    (outcomeOf (ast stackLimit environment call { files })).ending = .escaped cause ↔
      Unprepared files environment call stackLimit cause := by
  obtain ⟨s, _, _, run⟩ := exists_ast files environment call stackLimit
  rw [run, ending_after, Attempt.bind_eq_escaped_iff, loading_eq_escaped_iff]
  constructor
  · rintro (unloadable | ⟨settings, loaded, escaped⟩)
    · exact .settings unloadable
    · obtain ⟨fault, rfl, unreadable, other⟩ | ⟨n, rfl, deep, parsed⟩ :=
        treeOf_eq_escaped_iff.1 escaped
      · exact .tree command loaded unreadable other
      · exact .print command loaded parsed deep
  · intro unprepared
    cases unprepared with
    | settings unloadable => exact .inl unloadable
    | tree _ loaded unreadable other =>
      exact .inr ⟨_, loaded, treeOf_eq_escaped_iff.2 (.inl ⟨_, rfl, unreadable, other⟩)⟩
    | print _ loaded parsed deep =>
      exact .inr ⟨_, loaded, treeOf_eq_escaped_iff.2 (.inr ⟨_, rfl, deep, parsed⟩)⟩
    | search other _ _ =>
      rw [command] at other
      cases other
    | document other _ _ _ _ _ =>
      rw [command] at other
      cases other

theorem endsCleanly_ast
    (clean : ∀ cause,
      (outcomeOf (ast stackLimit environment call { files })).ending ≠ .escaped cause) :
    EndsCleanly call (outcomeOf (ast stackLimit environment call { files })) := by
  obtain ⟨s, quiet, _, run⟩ := exists_ast files environment call stackLimit
  rw [run] at clean ⊢
  exact endsCleanly_after quiet fun cause escaped => clean cause (ending_after.2 escaped)

end ast

/-- A directory whose name is that of a document. -/
def folder : Tree := [(["docs"], .directory), (["docs", "x.md"], .directory)]

def callOf (command : Command) (path : String) : Invocation :=
  { verbose := false, command, path, fields := command.fields [] }

theorem wellFormed_folder : folder.WellFormed := by decide +kernel

section files

variable {files t : Tree} {settings : Settings} {stackLimit : Option Nat} {ps : List Path}
  (wf : files.WellFormed) (named : ∀ p ∈ ps, Files.IsName p.name)

include wf

theorem wellFormed_of_made
    (made : files.makeDirectories (directory settings) stackLimit = .ok t) : t.WellFormed := by
  have sound : (Tree.leftBy (files.makeDirectories (directory settings) stackLimit)).WellFormed :=
    Tree.wellFormed_makeDirectories wf stackLimit
  rwa [made] at sound

include named

theorem Written.wellFormed (written : Written files settings stackLimit ps t) : t.WellFormed := by
  cases written with
  | nothing => exact wf
  | outputs made each =>
    have directory := (Tree.locate_of_makeDirectories made).2
    apply Tree.wellFormed_merge (wellFormed_of_made wf made) directory (forall_output each)
    rw [List.forall_mem_map]
    intro p member
    exact ⟨_, rfl, Files.isName_output (named p member) settings.outputFormat⟩

theorem Left.wellFormed (left : Left files settings stackLimit ps t) : t.WellFormed := by
  cases left with
  | written written => exact written.wellFormed wf named
  | unmade unmade =>
    have sound : (Tree.leftBy (files.makeDirectories (directory settings) stackLimit)).WellFormed :=
      Tree.wellFormed_makeDirectories wf stackLimit
    rwa [unmade] at sound

end files

theorem files_outcomeOf_after {a : Attempt α} {s : Progress} :
    (outcomeOf ((a.map fun _ => ()).after s)).files = s.files := by
  cases a <;> rfl

/-- However a run ends, it leaves a well-formed tree. -/
theorem wellFormed_run {files : Tree} {environment : Entries String String} {args : List String}
    {stackLimit : Option Nat} {o : Outcome} (wf : files.WellFormed)
    (ran : run files environment args stackLimit = .ok o) : o.files.WellFormed := by
  cases invoked : Invocation.ofArguments args with
  | error fault =>
    rw [run, invoked] at ran
    cases ran
  | ok call =>
    rw [run_eq invoked] at ran
    cases ran
    cases command : call.command with
    | ast =>
      obtain ⟨s, _, kept, run⟩ := exists_ast files environment call stackLimit
      dsimp only
      rw [run, files_outcomeOf_after, kept]
      exact wf
    | render =>
      have named (p : Path) (member : p ∈ files.discover (.ofText call.path)) :=
        Tree.isName_of_mem_discover wf member
      have course := course_render wf environment call stackLimit
      dsimp only
      generalize render stackLimit environment call { files } = ended at course ⊢
      cases course with
      | unset unloaded =>
        rw [files_outcomeOf_after]
        exact wf
      | unsearchable loaded broken => exact wf
      | nothing loaded searched nothing => exact wf
      | done loaded searched all quiet written => exact written.wellFormed wf named
      | stopped loaded searched split earlier stopped quiet left =>
        rw [files_outcomeOf_after]
        apply left.wellFormed wf
        intro p member
        exact named p (split ▸ List.mem_append_left _ member)

end Cli

end MarkdownTree
