import MarkdownTree.Cli.Run
import MarkdownTree.Proofs.Conversion.Failures
import MarkdownTree.Proofs.Files.Writing

/-!
# The steps of a command

What the steps of a command come to is judged here by the files that are there when the command
begins. `loading` says so of the settings, `fate` of one document. The lemmas `loadSettings_run`
and `exists_renderFile_of_done`, `exists_renderFile_of_stopped` say that the steps do so when they
are run, also after other documents were written: `Written` is what stands in the files by then,
and it is the invariant of the loop over the documents (`exists_forM_of_done`).
-/

namespace MarkdownTree.Cli

open Files (Path Tree)

/-- What an attempt comes to: a result, a report to the user, or a break. -/
inductive Attempt (α : Type) where
  | done (a : α)
  | failed (report : String)
  | escaped (cause : Escape)

/-- The attempt with another result. -/
def Attempt.map (f : α → β) : Attempt α → Attempt β
  | .done a => .done (f a)
  | .failed report => .failed report
  | .escaped cause => .escaped cause

/-- The report of a message and perhaps its cause. -/
def report (message : String) (cause : Option String) : String :=
  message ++ "\n" ++ (cause.map fun cause => "  " ++ cause ++ "\n").getD ""

/-- How a run goes on from where it is: only a report is written. -/
def Attempt.after (s : Progress) : Attempt α → Except Ending α × Progress
  | .done a => (.ok a, s)
  | .failed report => (.error .failed, { s with err := s.err ++ "Error: " ++ report })
  | .escaped cause => (.error (.escaped cause), s)

theorem fail_run (message : String) (cause : Option String) (s : Progress) :
    (fail message cause : Run α) s =
      (Attempt.failed (report message cause)).after s := by
  have noted : (note ("Error: " ++ message)) s =
      (.ok (), { s with err := s.err ++ ("Error: " ++ message) ++ "\n" }) := rfl
  rw [fail, bind_of_ok noted]
  cases cause with
  | none =>
    change (Except.error Ending.failed, _) = _
    simp [report, Attempt.after, String.append_assoc]
  | some cause =>
    have noted' (s : Progress) : (note ("  " ++ cause)) s =
        (.ok (), { s with err := s.err ++ ("  " ++ cause) ++ "\n" }) := rfl
    dsimp only
    rw [bind_of_ok (noted' _)]
    change (Except.error Ending.failed, _) = _
    simp [report, Attempt.after, String.append_assoc]

/-- A step that only logs. -/
def Logs (m : Run Unit) : Prop := ∀ s, ∃ log, m s = (.ok (), { s with err := s.err ++ log })

namespace Logs

theorem skip : Logs (pure ()) := fun s => ⟨"", by rw [String.append_empty]; rfl⟩

theorem note (line : String) : Logs (note line) :=
  fun s => ⟨line ++ "\n", by rw [← String.append_assoc]; rfl⟩

theorem seq {m m' : Run Unit} (first : Logs m) (second : Logs m') : Logs (m >>= fun _ => m') := by
  intro s
  obtain ⟨log, run⟩ := first s
  obtain ⟨log', run'⟩ := second { s with err := s.err ++ log }
  refine ⟨log ++ log', ?_⟩
  rw [bind_of_ok run, run', String.append_assoc]

theorem get {f : Progress → Run Unit} (each : ∀ s, Logs (f s)) : Logs (get >>= f) := by
  intro s
  obtain ⟨log, run⟩ := each s s
  exact ⟨log, run⟩

end Logs

theorem logs_logDocument (n : Node) : Logs (logDocument n) := Logs.note _

theorem logs_logRendering (stackLimit : Option Nat) (settings : Settings) (p : Path) :
    Logs (logRendering stackLimit settings p) := by
  apply Logs.get
  intro s
  split
  · exact Logs.skip
  · apply Logs.seq (logs_logDocument _)
    split
    · exact Logs.skip
    · exact Logs.note _

/-- Logging is asked for or there is none. -/
theorem exists_log {m : Run Unit} (logs : Logs m) (verbose : Bool) (k : Unit → Run α)
    (s : Progress) :
    ∃ log, (verbose = false → log = "") ∧
      (if verbose then m >>= k else k ()) s = k () { s with err := s.err ++ log } := by
  cases verbose with
  | false =>
    refine ⟨"", fun _ => rfl, ?_⟩
    rw [String.append_empty]
    rfl
  | true =>
    obtain ⟨log, run⟩ := logs s
    exact ⟨log, by simp, bind_of_ok run⟩

/-! ### Settings -/

/-- The text of the configuration file, if there is one. -/
def configText (files : Tree) : Except Files.Fault (Option String) :=
  match files.at? (.ofText configFile) with
  | none => .ok none
  | some _ => (files.readText (.ofText configFile)).map some

/-- What loading the settings comes to. -/
def loading (files : Tree) (environment : Entries String String) (fields : Fields)
    (stackLimit : Option Nat := usualStackLimit) : Attempt Settings :=
  match configText files with
  | .error (.notText what) => .failed (report what.message none)
  | .error fault => .escaped (.file fault)
  | .ok text =>
    match Config.load text environment fields stackLimit with
    | .ok settings => .done settings
    | .error fault =>
      match fault.message? with
      | some message => .failed (report message none)
      | none => .escaped (.config fault)

theorem loadSettings_run (stackLimit : Option Nat) (environment : Entries String String)
    (fields : Fields) (s : Progress) :
    loadSettings stackLimit environment fields s =
      (loading s.files environment fields stackLimit).after s := by
  have read : (get : Run Progress) s = (.ok s, s) := rfl
  have load (text : Option String) :
      (match Config.load text environment fields stackLimit with
        | .ok settings => pure settings
        | .error fault =>
          match fault.message? with
          | some message => fail message none
          | none => throw (.escaped (.config fault)) : Run Settings) s =
        (match Config.load text environment fields stackLimit with
        | .ok settings => .done settings
        | .error fault =>
          match fault.message? with
          | some message => .failed (report message none)
          | none => .escaped (.config fault) : Attempt Settings).after s := by
    cases Config.load text environment fields stackLimit with
    | ok settings => rfl
    | error fault =>
      dsimp only
      cases fault.message? with
      | some message => exact fail_run message none s
      | none => rfl
  rw [loadSettings, bind_of_ok read, loading, configText]
  dsimp only
  cases s.files.at? (.ofText configFile) with
  | none => exact load none
  | some c =>
    dsimp only
    cases s.files.readText (.ofText configFile) with
    | ok text => exact load (some text)
    | error fault =>
      cases fault with
      | notText what =>
        have reported : (fail what.message none : Run (Option String)) s = _ :=
          fail_run what.message none s
        exact bind_of_error reported
      | _ => rfl

/-! ### Documents -/

/-- The directory of the outputs. -/
def directory (settings : Settings) : Path := .ofText settings.outputDir

/-- The name of the output of a document. -/
def outputName (settings : Settings) (p : Path) : String :=
  Path.stem p.name ++ "." ++ settings.outputFormat.name

/-- The path of the output of a document. -/
def target (settings : Settings) (p : Path) : Path :=
  (directory settings).join (.ofText (outputName settings p))

/-- What is said of a document that was written. -/
def line (settings : Settings) (p : Path) : String :=
  "  " ++ p.text ++ " -> " ++ (target settings p).text ++ "\n"

/-- Writing the output of a document. -/
def writing (files : Tree) (settings : Settings) (p : Path) (m : Option Markup)
    (stackLimit : Option Nat) : Except Files.Breakdown (Tree × Path) :=
  files.writeOutput (fun _ => none) (directory settings) (Path.stem p.name)
    settings.outputFormat.name m stackLimit

/-- What rendering a document into a file comes to, beginning with the given files. -/
def fate (files : Tree) (settings : Settings) (p : Path)
    (stackLimit : Option Nat := usualStackLimit) : Attempt (Option Markup) :=
  match Files.render files p settings (.accept []) stackLimit with
  | .error fault => .escaped (.file fault)
  | .ok (.error fault) =>
    match renderingMessage? p fault with
    | some message => .failed (report ("Failed to render " ++ p.text) (some message))
    | none => .escaped .rendering
  | .ok (.ok m) =>
    match writing files settings p m stackLimit with
    | .error broken => .escaped (.file broken.fault)
    | .ok _ => .done m

/-- The place of the output of a document. -/
def outputPlace (settings : Settings) (p : Path) : List String :=
  (directory settings).place ++ [outputName settings p]

/-- The file that markup is written to. -/
def fileOf (settings : Settings) (m : Option Markup) : Files.Content :=
  .file (Tree.outputText (fun _ => none) settings.outputFormat.name m).toUTF8

/-- Why an output is not written into a directory that is there. -/
inductive Hindered (t : Tree) (settings : Settings) (p : Path) (m : Option Markup)
    (stackLimit : Option Nat) : Files.Fault → Prop
  | deep (deep : Tree.outputFits (fun _ => none) settings.outputFormat.name m stackLimit = false) :
      Hindered t settings p m stackLimit .stackExhausted
  | unwritable {fault : Files.Fault}
      (fits : Tree.outputFits (fun _ => none) settings.outputFormat.name m stackLimit = true)
      (unwritable : t.Unwritable (target settings p) fault) :
      Hindered t settings p m stackLimit fault

section writing

variable {files t s : Tree} {settings : Settings} {p : Path} {stackLimit : Option Nat}
  (named : Files.IsName p.name)
  (made : files.makeDirectories (directory settings) stackLimit = .ok t)

include named made

/-- A target leads into the directory of the outputs, as long as the directories stay. -/
theorem locate_target_of_made (keeps : t.Keeps s) :
    s.locate (target settings p) = .ok (outputPlace settings p) :=
  Tree.locate_join made keeps (Files.isName_output named settings.outputFormat)

/-- Once its directory can be made, an output is written unless something is in the way. -/
theorem writing_cases (m : Option Markup) :
    (∃ fault, Hindered t settings p m stackLimit fault ∧
        writing files settings p m stackLimit = .error ⟨fault, t⟩) ∨
      (∀ fault, ¬ Hindered t settings p m stackLimit fault) ∧
        t.content? (outputPlace settings p) ≠ some .directory ∧
        writing files settings p m stackLimit =
          .ok (Entries.set t (outputPlace settings p) (fileOf settings m), target settings p) := by
  have located := locate_target_of_made named made fun _ there => there
  cases fits : Tree.outputFits (fun _ => none) settings.outputFormat.name m stackLimit with
  | false => exact .inl ⟨_, .deep fits, Tree.writeOutput_of_deep made fits⟩
  | true =>
    have written : writing files settings p m stackLimit = _ := Tree.writeOutput_of_fits made fits
    rcases Tree.writeText_cases located (Tree.outputText (fun _ => none) _ m) with
      ⟨fault, unwritable, failed⟩ | ⟨free, place, ok⟩
    · left
      refine ⟨fault, .unwritable fits unwritable, written.trans ?_⟩
      exact congrArg _ (congrArg _ failed)
    · right
      refine ⟨?_, place, written.trans (congrArg _ (congrArg _ ok))⟩
      intro fault hindered
      cases hindered with
      | deep deep =>
        rw [fits] at deep
        cases deep
      | unwritable _ unwritable => exact free fault unwritable

omit named in
theorem writing_of_hindered {m : Option Markup} {fault : Files.Fault}
    (hindered : Hindered t settings p m stackLimit fault) :
    writing files settings p m stackLimit = .error ⟨fault, t⟩ := by
  cases hindered with
  | deep deep => exact Tree.writeOutput_of_deep made deep
  | unwritable fits unwritable =>
    refine (Tree.writeOutput_of_fits made fits).trans ?_
    exact congrArg _ (congrArg _ (Tree.writeText_of_unwritable unwritable))

end writing

theorem writing_of_unmade {files : Tree} {settings : Settings} {p : Path} {m : Option Markup}
    {stackLimit : Option Nat} {broken : Files.Breakdown}
    (unmade : files.makeDirectories (directory settings) stackLimit = .error broken) :
    writing files settings p m stackLimit = .error broken :=
  Tree.writeOutput_of_unmade unmade

/-- What is in the way of an output depends on the directories alone. -/
theorem Hindered.congr {s t : Tree} {settings : Settings} {p : Path} {m : Option Markup}
    {stackLimit : Option Nat} {q : List String} {fault : Files.Fault}
    (located : t.locate (target settings p) = .ok q)
    (located' : s.locate (target settings p) = .ok q)
    (directory : s.content? q = some .directory ↔ t.content? q = some .directory) :
    Hindered s settings p m stackLimit fault ↔ Hindered t settings p m stackLimit fault := by
  have same : s.Unwritable (target settings p) fault ↔ t.Unwritable (target settings p) fault :=
    Tree.Unwritable.congr located located' directory
  constructor
  · rintro (deep | ⟨fits, unwritable⟩)
    · exact .deep deep
    · exact .unwritable fits (same.1 unwritable)
  · rintro (deep | ⟨fits, unwritable⟩)
    · exact .deep deep
    · exact .unwritable fits (same.2 unwritable)

/-- A document is written if it can be rendered, the directory can be made and nothing is in the way
of the output. -/
theorem fate_eq_done_iff {files : Tree} {settings : Settings} {p : Path} {m : Option Markup}
    {stackLimit : Option Nat} (named : Files.IsName p.name) :
    fate files settings p stackLimit = .done m ↔
      Files.render files p settings (.accept []) stackLimit = .ok (.ok m) ∧
        ∃ t, files.makeDirectories (directory settings) stackLimit = .ok t ∧
          ∀ fault, ¬ Hindered t settings p m stackLimit fault := by
  unfold fate
  cases rendered : Files.render files p settings (.accept []) stackLimit with
  | error fault => simp
  | ok r =>
    cases r with
    | error fault =>
      dsimp only
      cases renderingMessage? p fault <;> simp
    | ok m' =>
      dsimp only
      cases made : files.makeDirectories (directory settings) stackLimit with
      | error broken => simp [writing_of_unmade made]
      | ok t =>
        rcases writing_cases named made m' with ⟨fault, hindered, failed⟩ | ⟨free, _, ok⟩
        · rw [failed]
          simp only [reduceCtorEq, Except.ok.injEq, exists_eq_left', false_iff, not_and]
          rintro rfl free
          exact free fault hindered
        · rw [ok]
          simp only [Attempt.done.injEq, Except.ok.injEq, exists_eq_left', iff_self_and]
          rintro rfl
          exact free

/-- The text that is written for a document. -/
def documentText (files : Tree) (settings : Settings) (p : Path)
    (stackLimit : Option Nat := usualStackLimit) : String :=
  match Files.render files p settings (.accept []) stackLimit with
  | .ok (.ok m) => Tree.outputText (fun _ => none) settings.outputFormat.name m
  | _ => ""

/-- The file that is written for a document. -/
def output (files : Tree) (settings : Settings) (p : Path)
    (stackLimit : Option Nat := usualStackLimit) : List String × Files.Content :=
  (outputPlace settings p, .file (documentText files settings p stackLimit).toUTF8)

/-- What the files are when some documents were written. -/
inductive Written (files : Tree) (settings : Settings) (stackLimit : Option Nat) :
    List Path → Tree → Prop
  | nothing : Written files settings stackLimit [] files
  | outputs {t : Tree} {ps : List Path}
      (made : files.makeDirectories (directory settings) stackLimit = .ok t)
      (each : ∀ p ∈ ps,
        t.IsOutput (directory settings).place (output files settings p stackLimit)) :
      Written files settings stackLimit ps
        (Entries.merge t (ps.map (output files settings · stackLimit)))

/-- What the files are when a run ends after some documents were written: the directory of the
outputs may be made in part. -/
inductive Left (files : Tree) (settings : Settings) (stackLimit : Option Nat) (ps : List Path) :
    Tree → Prop
  | written {t : Tree} (written : Written files settings stackLimit ps t) :
      Left files settings stackLimit ps t
  | unmade {broken : Files.Breakdown}
      (unmade : files.makeDirectories (directory settings) stackLimit = .error broken) :
      Left files settings stackLimit ps broken.files

namespace Written

variable {files t : Tree} {settings : Settings} {stackLimit : Option Nat} {ps : List Path}
  {p : Path} {q : List String}

theorem forall_output {t : Tree}
    (each : ∀ p ∈ ps,
      t.IsOutput (directory settings).place (output files settings p stackLimit)) :
    ∀ e ∈ ps.map (output files settings · stackLimit), t.IsOutput (directory settings).place e := by
  rw [List.forall_mem_map]
  exact each

/-- Documents read the same all along. -/
theorem readText (written : Written files settings stackLimit ps t) (leads : files.LeadsTo p q) :
    t.readText p = files.readText p := by
  cases written with
  | nothing => rfl
  | outputs made each =>
    exact Tree.readText_merge (Tree.makeDirectories_extends made) (forall_output each) leads

theorem render (written : Written files settings stackLimit ps t) (leads : files.LeadsTo p q)
    (overrides : Check Overrides) :
    Files.render t p settings overrides stackLimit =
      Files.render files p settings overrides stackLimit := by
  rw [Files.render, Files.render, written.readText leads]

/-- Either the directory of the outputs cannot be made, and nothing is written, or it is made by the
time of the next output. -/
theorem makeDirectories (written : Written files settings stackLimit ps t) :
    (∃ broken, files.makeDirectories (directory settings) stackLimit = .error broken ∧
        t = files) ∨
      ∃ t₁, files.makeDirectories (directory settings) stackLimit = .ok t₁ ∧
        (∀ p ∈ ps,
          t₁.IsOutput (directory settings).place (output files settings p stackLimit)) ∧
        t.makeDirectories (directory settings) stackLimit =
          .ok (Entries.merge t₁ (ps.map (output files settings · stackLimit))) := by
  cases written with
  | nothing =>
    cases made : files.makeDirectories (directory settings) stackLimit with
    | error broken => exact .inl ⟨broken, rfl, rfl⟩
    | ok t₁ => exact .inr ⟨t₁, rfl, by simp, rfl⟩
  | outputs made each =>
    have keeps := Tree.keeps_merge (forall_output each)
    exact .inr ⟨_, made, each, Tree.makeDirectories_again made keeps⟩

/-- Another output is added to those that are written. -/
theorem append {t₁ : Tree} {m : Option Markup}
    (made : files.makeDirectories (directory settings) stackLimit = .ok t₁)
    (each : ∀ p ∈ ps,
      t₁.IsOutput (directory settings).place (output files settings p stackLimit))
    (rendered : Files.render files p settings (.accept []) stackLimit = .ok (.ok m))
    (free : t₁.content? (outputPlace settings p) ≠ some .directory) :
    Written files settings stackLimit (ps ++ [p])
      (Entries.set (Entries.merge t₁ (ps.map (output files settings · stackLimit)))
        (outputPlace settings p) (fileOf settings m)) := by
  have own : output files settings p stackLimit = (outputPlace settings p, fileOf settings m) := by
    rw [output, documentText, rendered, fileOf]
  have last : Entries.merge t₁ ((ps ++ [p]).map (output files settings · stackLimit)) =
      Entries.set (Entries.merge t₁ (ps.map (output files settings · stackLimit)))
        (outputPlace settings p) (fileOf settings m) := by
    rw [List.map_append, Entries.merge_append, List.map_singleton, own]
    rfl
  rw [← last]
  apply outputs made
  intro p' member
  rcases List.mem_append.1 member with earlier | new
  · exact each p' earlier
  · rw [List.mem_singleton.1 new]
    exact ⟨⟨_, rfl, Files.isDocumentName_output _ _⟩, ⟨_, rfl⟩, free⟩

/-- Another output can be written if and only if it can be written at first. -/
theorem writing (written : Written files settings stackLimit ps t) (leads : files.LeadsTo p q)
    (m : Option Markup) :
    (∃ fault files' t', writing files settings p m stackLimit = .error ⟨fault, files'⟩ ∧
        writing t settings p m stackLimit = .error ⟨fault, t'⟩ ∧
        Left files settings stackLimit ps t') ∨
      ∃ r t', writing files settings p m stackLimit = .ok r ∧
        writing t settings p m stackLimit = .ok (t', target settings p) ∧
        (Files.render files p settings (.accept []) stackLimit = .ok (.ok m) →
          Written files settings stackLimit (ps ++ [p]) t') := by
  have named := leads.isName
  rcases written.makeDirectories with ⟨⟨fault, files'⟩, unmade, rfl⟩ | ⟨t₁, made, each, made'⟩
  · have broken := writing_of_unmade (p := p) (m := m) unmade
    exact .inl ⟨fault, files', files', broken, broken, .unmade unmade⟩
  · have keeps := Tree.keeps_merge (forall_output each)
    have located := locate_target_of_made named made fun _ there => there
    have located' := locate_target_of_made named made keeps
    have directories := Tree.directory_merge_iff (forall_output each) (q := outputPlace settings p)
    rcases writing_cases named made m with ⟨fault, hindered, failed⟩ | ⟨free, place, ok⟩
    · left
      have later := (Hindered.congr located located' directories).2 hindered
      exact ⟨fault, t₁, _, failed, writing_of_hindered made' later,
        .written (.outputs made each)⟩
    · right
      rcases writing_cases named made' m with ⟨fault, hindered, _⟩ | ⟨_, _, ok'⟩
      · exact (free fault ((Hindered.congr located located' directories).1 hindered)).elim
      · exact ⟨_, _, ok, ok', fun rendered => append made each rendered place⟩

end Written

/-- What is done when a document was rendered. -/
def conclude (stackLimit : Option Nat) (settings : Settings) (p : Path) :
    Except Rendering.Fault (Option Markup) → Run Unit
  | .error fault =>
    match renderingMessage? p fault with
    | some message => fail ("Failed to render " ++ p.text) (some message)
    | none => throw (.escaped .rendering)
  | .ok m => do
    let target ← change (writing (← get).files settings p m stackLimit)
    say ("  " ++ p.text ++ " -> " ++ target.text)

section conclude

variable {stackLimit : Option Nat} {settings : Settings} {p : Path} {m : Option Markup}
  {s : Progress}

theorem conclude_of_error {fault : Files.Fault} {t : Tree}
    (failed : writing s.files settings p m stackLimit = .error ⟨fault, t⟩) :
    conclude stackLimit settings p (.ok m) s =
      (.error (.escaped (.file fault)), { s with files := t }) := by
  have state : (get : Run Progress) s = (.ok s, s) := rfl
  have result : (change (.error ⟨fault, t⟩) : Run Path) s =
    (.error (.escaped (.file fault)), { s with files := t }) := rfl
  rw [conclude, bind_of_ok state, failed]
  exact bind_of_error result

theorem conclude_of_ok {t : Tree}
    (ok : writing s.files settings p m stackLimit = .ok (t, target settings p)) :
    conclude stackLimit settings p (.ok m) s =
      (.ok (), { s with out := s.out ++ line settings p, files := t }) := by
  have state : (get : Run Progress) s = (.ok s, s) := rfl
  have result : (change (.ok (t, target settings p)) : Run Path) s =
    (.ok (target settings p), { s with files := t }) := rfl
  have said : s.out ++ line settings p =
      s.out ++ ("  " ++ p.text ++ " -> " ++ (target settings p).text) ++ "\n" :=
    (String.append_assoc ..).symm
  rw [conclude, bind_of_ok state, ok, bind_of_ok result, said]
  rfl

end conclude

section step

variable {files : Tree} {settings : Settings} {stackLimit : Option Nat} {ps : List Path} {p : Path}
  {q : List String} {s : Progress} (verbose : Bool) (leads : files.LeadsTo p q)
  (written : Written files settings stackLimit ps s.files)

include leads written

/-- A document is rendered as it is at first, and then there may be logs. -/
theorem exists_renderFile_eq {r : Except Rendering.Fault (Option Markup)}
    (rendered : Files.render files p settings (.accept []) stackLimit = .ok r) :
    ∃ log, (verbose = false → log = "") ∧
      renderFile stackLimit verbose settings p s =
        conclude stackLimit settings p r { s with err := s.err ++ log } := by
  have state : (get : Run Progress) s = (.ok s, s) := rfl
  have result : (orBreak .file (.ok r : Except Files.Fault _) : Run _) s = (.ok r, s) := rfl
  obtain ⟨log, quiet, logged⟩ := exists_log (logs_logRendering stackLimit settings p) verbose
    (fun _ => conclude stackLimit settings p r) s
  refine ⟨log, quiet, ?_⟩
  rw [renderFile, bind_of_ok state, written.render leads, rendered, bind_of_ok result]
  cases r with
  | error fault => exact logged
  | ok m => exact logged

/-- A document that cannot be read breaks the run off. -/
theorem renderFile_of_unreadable {fault : Files.Fault}
    (unreadable : Files.render files p settings (.accept []) stackLimit = .error fault) :
    renderFile stackLimit verbose settings p s = (.error (.escaped (.file fault)), s) := by
  have state : (get : Run Progress) s = (.ok s, s) := rfl
  have result : (orBreak .file (.error fault : Except Files.Fault _) :
    Run (Except Rendering.Fault (Option Markup))) s = (.error (.escaped (.file fault)), s) := rfl
  rw [renderFile, bind_of_ok state, written.render leads, unreadable]
  exact bind_of_error result

/-- A document that is not written ends the run. -/
theorem exists_renderFile_of_stopped (stopped : ∀ m, fate files settings p stackLimit ≠ .done m) :
    ∃ log t, (verbose = false → log = "") ∧ Left files settings stackLimit ps t ∧
      renderFile stackLimit verbose settings p s =
        ((fate files settings p stackLimit).map fun _ => ()).after
          { s with err := s.err ++ log, files := t } := by
  unfold fate at stopped ⊢
  cases rendered : Files.render files p settings (.accept []) stackLimit with
  | error fault =>
    refine ⟨"", s.files, fun _ => rfl, .written written, ?_⟩
    rw [renderFile_of_unreadable verbose leads written rendered, String.append_empty]
    rfl
  | ok r =>
    obtain ⟨log, quiet, run⟩ := exists_renderFile_eq verbose leads written rendered
    cases r with
    | error fault =>
      refine ⟨log, s.files, quiet, .written written, ?_⟩
      rw [run]
      dsimp only [conclude]
      cases renderingMessage? p fault with
      | some message => exact fail_run _ _ _
      | none => rfl
    | ok m =>
      rcases written.writing leads m with ⟨fault, _, t, first, now, left⟩ | ⟨r, _, first, _⟩
      · refine ⟨log, t, quiet, left, ?_⟩
        dsimp only
        rw [run, first]
        exact conclude_of_error now
      · rw [rendered] at stopped
        simp only [first] at stopped
        exact (stopped m rfl).elim

/-- A document that is written gets a line, and it is among those that are written. -/
theorem exists_renderFile_of_done {m : Option Markup}
    (done : fate files settings p stackLimit = .done m) :
    ∃ log t, (verbose = false → log = "") ∧ Written files settings stackLimit (ps ++ [p]) t ∧
      renderFile stackLimit verbose settings p s =
        (.ok (), { out := s.out ++ line settings p, err := s.err ++ log, files := t }) := by
  unfold fate at done
  cases rendered : Files.render files p settings (.accept []) stackLimit with
  | error fault =>
    rw [rendered] at done
    cases done
  | ok r =>
    rw [rendered] at done
    obtain ⟨log, quiet, run⟩ := exists_renderFile_eq verbose leads written rendered
    cases r with
    | error fault =>
      dsimp only at done
      cases message : renderingMessage? p fault <;> rw [message] at done <;> cases done
    | ok m' =>
      rcases written.writing leads m' with ⟨fault, _, _, first, _⟩ | ⟨r, t, first, now, later⟩
      · dsimp only at done
        rw [first] at done
        cases done
      · refine ⟨log, t, quiet, later rendered, ?_⟩
        rw [run]
        exact conclude_of_ok now

end step

/-! ### All documents -/

section documents

variable {files : Tree} {settings : Settings} {stackLimit : Option Nat} (verbose : Bool)

/-- Documents that are all written get their lines in order. By induction on them: what is written
by then is the invariant. -/
theorem exists_forM_of_done {ps before : List Path} {s : Progress}
    (leads : ∀ p ∈ ps, ∃ q, files.LeadsTo p q)
    (done : ∀ p ∈ ps, ∃ m, fate files settings p stackLimit = .done m)
    (written : Written files settings stackLimit before s.files) :
    ∃ log t, (verbose = false → log = "") ∧ Written files settings stackLimit (before ++ ps) t ∧
      ps.forM (renderFile stackLimit verbose settings) s =
        (.ok (),
          { out := s.out ++ String.join (ps.map (line settings))
            err := s.err ++ log
            files := t }) := by
  induction ps generalizing before s with
  | nil =>
    refine ⟨"", s.files, fun _ => rfl, by rwa [List.append_nil], ?_⟩
    rw [List.map_nil, String.join_nil, String.append_empty, String.append_empty]
    rfl
  | cons p ps ih =>
    obtain ⟨q, own⟩ := leads p List.mem_cons_self
    obtain ⟨m, first⟩ := done p List.mem_cons_self
    obtain ⟨log, t, quiet, now, run⟩ := exists_renderFile_of_done verbose own written first
    obtain ⟨log', t', quiet', later, rest⟩ := ih
      (s := { out := s.out ++ line settings p, err := s.err ++ log, files := t })
      (fun p' member => leads p' (List.mem_cons_of_mem p member))
      (fun p' member => done p' (List.mem_cons_of_mem p member)) now
    refine ⟨log ++ log', t', ?_, ?_, ?_⟩
    · intro silent
      rw [quiet silent, quiet' silent]
      rfl
    · rwa [List.append_cons]
    · change (renderFile stackLimit verbose settings p >>= fun _ =>
        ps.forM (renderFile stackLimit verbose settings)) s = _
      rw [bind_of_ok run, rest, List.map_cons, String.join_cons, String.append_assoc,
        String.append_assoc]

/-- The first document that is not written ends the run. -/
theorem exists_forM_of_stopped {before after : List Path} {p : Path}
    (leads : ∀ p' ∈ before ++ p :: after, ∃ q, files.LeadsTo p' q)
    (done : ∀ p' ∈ before, ∃ m, fate files settings p' stackLimit = .done m)
    (stopped : ∀ m, fate files settings p stackLimit ≠ .done m) {s : Progress}
    (start : s.files = files) :
    ∃ log t, (verbose = false → log = "") ∧ Left files settings stackLimit before t ∧
      (before ++ p :: after).forM (renderFile stackLimit verbose settings) s =
        ((fate files settings p stackLimit).map fun _ => ()).after
          { out := s.out ++ String.join (before.map (line settings))
            err := s.err ++ log
            files := t } := by
  have fresh : Written files settings stackLimit [] s.files := start ▸ .nothing
  obtain ⟨q, own⟩ := leads p (by simp)
  obtain ⟨log, t, quiet, written, run⟩ := exists_forM_of_done verbose
    (fun p' member => leads p' (List.mem_append_left _ member)) done fresh
  rw [List.nil_append] at written
  obtain ⟨log', t', quiet', left, last⟩ := exists_renderFile_of_stopped
    (s := ⟨s.out ++ String.join (before.map (line settings)), s.err ++ log, t⟩) verbose own written
    stopped
  refine ⟨log ++ log', t', ?_, left, ?_⟩
  · intro silent
    rw [quiet silent, quiet' silent]
    rfl
  · have split : (before ++ p :: after).forM (renderFile stackLimit verbose settings) =
        before.forM (renderFile stackLimit verbose settings) >>= fun _ =>
          (p :: after).forM (renderFile stackLimit verbose settings) := List.forM_append
    have cons : (p :: after).forM (renderFile stackLimit verbose settings) =
        renderFile stackLimit verbose settings p >>= fun _ =>
          after.forM (renderFile stackLimit verbose settings) := rfl
    rw [split, bind_of_ok run, cons, ← String.append_assoc]
    cases ended : fate files settings p stackLimit with
    | done m => exact (stopped m ended).elim
    | failed report =>
      rw [ended] at last
      exact bind_of_error last
    | escaped cause =>
      rw [ended] at last
      exact bind_of_error last

end documents

end MarkdownTree.Cli
