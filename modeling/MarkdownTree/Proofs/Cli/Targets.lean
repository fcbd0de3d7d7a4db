import MarkdownTree.Proofs.Cli.Rendering
import MarkdownTree.Proofs.Files.Discovery
import Mathlib.Data.Finset.Card

/-!
# What the render command leaves behind

A command that succeeds has written every document that it found, in their order, into one
directory and under the stems of their names. A path in the list of what was rendered therefore
holds the last document of its stem. Every document is kept if and only if the stems differ; nothing
in the program sees to that.
-/

namespace MarkdownTree.Cli

open Files (Path Tree)

/-- What the output of a document keeps of its path. -/
def stem (p : Path) : String := Path.stem p.name

theorem outputName_eq_iff (settings : Settings) {p p' : Path} :
    outputName settings p = outputName settings p' ↔ stem p = stem p' :=
  Files.outputName_inj

namespace Written

variable {files t : Tree} {settings : Settings} {stackLimit : Option Nat} {ps : List Path}
  {p : Path}

/-- The target of a document leads into the directory of the outputs. -/
theorem locate_target (written : Written files settings stackLimit ps t) (member : p ∈ ps)
    (named : Files.IsName p.name) :
    t.locate (target settings p) = .ok (outputPlace settings p) := by
  cases written with
  | nothing => cases member
  | outputs made each =>
    exact locate_target_of_made named made (Tree.keeps_merge (forall_output each))

/-- The target of a document holds the last one with its stem. -/
theorem exists_at?_target (written : Written files settings stackLimit ps t) (member : p ∈ ps)
    (named : Files.IsName p.name) :
    ∃ last ∈ ps, Entries.last? stem ps (stem p) = some last ∧
      t.at? (target settings p) =
        some (.file (documentText files settings last stackLimit).toUTF8) := by
  have located := written.locate_target member named
  cases written with
  | nothing => cases member
  | outputs made each =>
    have same (p' : Path) : (output files settings p' stackLimit).1 = outputPlace settings p ↔
        stem p' = stem p := by
      rw [← outputName_eq_iff settings]
      simp [output, outputPlace]
    obtain ⟨last, found⟩ := Entries.last?_isSome_of_mem (List.mem_map_of_mem (f := stem) member)
    refine ⟨last, Entries.mem_of_last? found, found, ?_⟩
    rw [Tree.at?, located]
    dsimp only
    rw [Tree.content?_merge (forall_output each), Entries.last?_map_of_iff fun p' _ => same p',
      found]
    rfl

/-- Two documents have one target if and only if their stems agree. -/
theorem locate_target_eq_iff (written : Written files settings stackLimit ps t) {p' : Path}
    (member : p ∈ ps)
    (member' : p' ∈ ps) (named : Files.IsName p.name) (named' : Files.IsName p'.name) :
    t.locate (target settings p) = t.locate (target settings p') ↔ stem p = stem p' := by
  rw [written.locate_target member named, written.locate_target member' named',
    ← outputName_eq_iff settings]
  simp [outputPlace]

end Written

/-- A path in `t` holds the serialization of the tree that a document in `files` has. -/
def Holds (files t : Tree) (settings : Settings) (place p : Path) : Prop :=
  ∃ m, Files.render files p settings (.accept []) = .ok (.ok m) ∧
    t.at? place =
      some (.file (Tree.outputText (fun _ => none) settings.outputFormat.name m).toUTF8)

section targets

variable {files t : Tree} {settings : Settings} {ps : List Path}
  (written : Written files settings usualStackLimit ps t) (named : ∀ p ∈ ps, Files.IsName p.name)

include written named

theorem exists_holds_target {p : Path} (all : ∀ p ∈ ps, ∃ m, fate files settings p = .done m)
    (member : p ∈ ps) :
    ∃ last, Entries.last? stem ps (stem p) = some last ∧
      Holds files t settings (target settings p) last := by
  obtain ⟨last, listed, found, held⟩ := written.exists_at?_target member (named p member)
  obtain ⟨m, done⟩ := all last listed
  obtain ⟨rendered, _⟩ := (fate_eq_done_iff (named last listed)).1 done
  rw [documentText, rendered] at held
  exact ⟨last, found, m, rendered, held⟩

/-- The targets differ if and only if the stems do. -/
theorem nodup_targets_iff (nodup : ps.Nodup) :
    (ps.map fun p => t.locate (target settings p)).Nodup ↔ (ps.map stem).Nodup := by
  rw [List.nodup_map_iff_inj_on nodup, List.nodup_map_iff_inj_on nodup]
  have same (p : Path) (member : p ∈ ps) (p' : Path) (member' : p' ∈ ps) :
      t.locate (target settings p) = t.locate (target settings p') ↔ stem p = stem p' :=
    written.locate_target_eq_iff member member' (named p member) (named p' member')
  constructor
  · intro apart p member p' member' equal
    exact apart p member p' member' ((same p member p' member').2 equal)
  · intro apart p member p' member' equal
    exact apart p member p' member' ((same p member p' member').1 equal)

end targets

theorem last?_eq_self {l : List Path} {p : Path} (apart : (l.map stem).Nodup) (member : p ∈ l) :
    Entries.last? stem l (stem p) = some p := by
  obtain ⟨last, found⟩ := Entries.last?_isSome_of_mem (List.mem_map_of_mem (f := stem) member)
  rw [found, List.inj_on_of_nodup_map apart (Entries.mem_of_last? found) member
    (Entries.key_of_last? found)]

theorem exists_done_of_exitCode {a : Attempt α} {s : Progress}
    (h : (outcomeOf ((a.map fun _ => ()).after s)).exitCode = 0) : ∃ r, a = .done r := by
  cases a with
  | done r => exact ⟨r, rfl⟩
  | failed report => cases h
  | escaped cause => cases h

/-- A render command that succeeds reports every document that it found, in order. The target of a
document holds the last document of its stem. So there are as many files as documents if and only
if their stems differ, and then every target holds its own document. -/
theorem rendered_documents_held {files : Tree} {environment : Entries String String}
    {args : List String} {call : Invocation} {o : Outcome} (wf : files.WellFormed)
    (invoked : Invocation.ofArguments args = .ok call) (rendering : call.command = .render)
    (ran : run files environment args = .ok o) (succeeded : o.exitCode = 0) :
    ∃ settings found, loading files environment call.fields = .done settings ∧
      found = files.discover (.ofText call.path) ∧ found.Nodup ∧
      o.out = String.join (found.map (line settings)) ++ summary settings found.length ++ "\n" ∧
      (∀ p ∈ found, ∃ last, Entries.last? stem found (stem p) = some last ∧
        Holds files o.files settings (target settings p) last) ∧
      ((found.map fun p => o.files.locate (target settings p)).Nodup ↔ (found.map stem).Nodup) ∧
      ((found.map fun p => o.files.locate (target settings p)).toFinset.card = found.length ↔
        (found.map stem).Nodup) ∧
      ((found.map stem).Nodup →
        ∀ p ∈ found, Holds files o.files settings (target settings p) p) := by
  rw [run_render invoked rendering] at ran
  cases ran
  have course := course_render wf environment call usualStackLimit
  generalize render usualStackLimit environment call { files } = ended at course succeeded ⊢
  cases course with
  | unset unloaded =>
    obtain ⟨settings, loaded⟩ := exists_done_of_exitCode succeeded
    exact (unloaded settings loaded).elim
  | unsearchable loaded broken => cases succeeded
  | nothing loaded searched nothing => cases succeeded
  | stopped loaded searched split earlier stopped quiet left =>
    obtain ⟨m, done⟩ := exists_done_of_exitCode succeeded
    exact (stopped m done).elim
  | @done settings log t loaded searched all quiet written =>
    have nodup := Tree.nodup_discover wf (.ofText call.path)
    have named (p : Path) (member : p ∈ files.discover (.ofText call.path)) :=
      Tree.isName_of_mem_discover wf member
    have held (p : Path) (member : p ∈ files.discover (.ofText call.path)) :=
      exists_holds_target written named all member
    have distinct := nodup_targets_iff written named nodup
    refine ⟨settings, _, loaded, rfl, nodup, rfl, held, distinct, ?_, ?_⟩
    · rw [← distinct, ← Multiset.coe_nodup, ← Multiset.toFinset_card_eq_card_iff_nodup,
        Multiset.coe_card, List.length_map]
      rfl
    · intro apart p member
      obtain ⟨last, found, holds⟩ := held p member
      rw [last?_eq_self apart member] at found
      cases found
      exact holds

/-! ### Two documents in one directory -/

/-- A document is rendered if its tree is converted. -/
theorem render_of_tree {files : Tree} {settings : Settings} {p : Path} {source : String}
    {n : Node} {m : Option Markup} (read : files.readText p = .ok source)
    (document : Markdown.document settings.parserConfig [] settings.position source = .ok n)
    (converted : (Conversion.start (Rendering.renderTree n [] settings)).1 = .ok m) :
    Files.render files p settings (.accept []) = .ok (.ok m) := by
  rw [Files.render, read]
  change Except.ok (Rendering.render settings none [] (.accept []) source).1 = _
  rw [Rendering.render]
  dsimp only [Option.getD_none]
  rw [document]
  dsimp only [Check.toExcept, Check.accept]
  rw [converted]
  rfl

def pair (first second : String) : Tree :=
  [(["docs"], .directory), (["docs", first], .file "a".toUTF8),
    (["docs", second], .file "b".toUTF8)]

/-- Rendering a directory as HTML. -/
def htmlCall : Invocation :=
  { verbose := false
    command := .render
    path := "docs"
    fields := Command.render.fields [("output_format", .string "html")] }

def htmlSettings : Settings where
  maxDepth_pos := Nat.succ_pos 199
  outputFormat := .html

def paragraph (s : String) : Node := .branch "root" [.branch "paragraph" [.leaf "text" s]]

/-- The tokens of a line that is plain text. -/
def lineTokens (s : String) : List Syntax.Token :=
  [Markdown.opening "paragraph" "p" (some (0, 1)),
    { kind := "inline", lines := some (0, 1), content := some s,
      children := [{ kind := "text", content := some s }] },
    Markdown.closing "paragraph" "p"]

/-- The syntax tree of a line that is plain text. -/
def lineTree (s : String) : Syntax.Tree where
  kind := "paragraph"
  tag := "p"
  lines := some (0, 1)
  children :=
    [{ kind := "inline", lines := some (0, 1), content := some s,
       children := [{ kind := "text", content := some s }] }]

theorem nest?_lineTokens (s : String) :
    Syntax.Tree.nest? (lineTokens s) = some [lineTree s] := by
  have kind : Syntax.Tree.kindOfOpening "paragraph_open" = "paragraph" := by decide +kernel
  simp [lineTokens, lineTree, Syntax.Tree.nest?, Syntax.Tree.splitClosing, Markdown.opening,
    Markdown.closing, kind]

theorem fitsTokens_lineTokens (s : String) :
    Markdown.fitsTokens usualStackLimit (lineTokens s) = true := by
  have height : Syntax.Tree.heightOfTokens (lineTokens s) = 3 := by
    rw [Syntax.Tree.heightOfTokens, nest?_lineTokens]
    cbv
  rw [Markdown.fitsTokens, height]
  decide

theorem documentOfTokens_lineTokens (s : String) :
    Syntax.documentOfTokens false (lineTokens s) {} = .ok (paragraph s) := by
  rw [Syntax.documentOfTokens, nest?_lineTokens]
  cbv

/-- A line that is plain text becomes a paragraph with that text. -/
theorem document_line {s : String}
    (read : (Markdown.readTokens {} s).run {} = .ok (lineTokens s, {})) :
    Markdown.document "gfm-like" [] false s = .ok (paragraph s) := by
  have options : Markdown.Options.ofFields "gfm-like" [] = .ok {} := by with_unfolding_all rfl
  rw [Markdown.document, options]
  change (Except.mapError _ ((Markdown.readTokens {} s).run {}) >>= _) = _
  rw [read]
  change (if !(Markdown.fitsTokens usualStackLimit (lineTokens s) && true) then _ else
    Except.mapError _ (Syntax.documentOfTokens false (lineTokens s) {})) = _
  rw [fitsTokens_lineTokens, documentOfTokens_lineTokens]
  rfl

def page (s : String) : Markup :=
  .element (.name "div") [("key", .string "0")]
    [.element (.name "p") [("key", .string "0")] [.text s]]

theorem invoked_html :
    Invocation.ofArguments ["render", "docs", "--format", "html"] = .ok htmlCall := by
  with_unfolding_all rfl

section pair

variable {first second : String} {p : Path}

theorem loading_pair : loading (pair first second) [] htmlCall.fields = .done htmlSettings := by
  have path : Path.ofText configFile = { parts := ["config.yaml"] } := by decide +kernel
  have absent : (pair first second).at? (.ofText configFile) = none := by
    simp [path, Tree.at?, Tree.locate, Tree.follow, Tree.next, Tree.content?, Entries.get?, pair]
  have text : configText (pair first second) = .ok none := by rw [configText, absent]
  have load : Config.load none [] htmlCall.fields = .ok htmlSettings := by
    with_unfolding_all rfl
  rw [loading, text]
  dsimp only
  rw [load]

theorem locate_pair : (pair first second).locate (.ofText htmlCall.path) = .ok ["docs"] := by
  have path : Path.ofText htmlCall.path = { parts := ["docs"] } := by decide +kernel
  rw [path]
  rfl

theorem searchFault?_pair : (pair first second).searchFault? (.ofText htmlCall.path) = none := by
  have allowed : (Path.ofText htmlCall.path).check = .ok () := by decide +kernel
  have there : Tree.content? (pair first second) ["docs"] = some .directory := rfl
  have below : Tree.directoriesBelow (pair first second) ["docs"] = [] := by
    simp [Tree.directoriesBelow, pair]
  rw [Tree.searchFault?, allowed, locate_pair]
  dsimp only
  rw [there, below]
  rfl

theorem made_pair : (pair first second).makeDirectories (directory htmlSettings) =
    .ok (pair first second ++ [(["dist"], .directory)]) := by
  have path : directory htmlSettings = { parts := ["dist"] } := by decide +kernel
  have allowed : (directory htmlSettings).check = .ok () := by decide +kernel
  have short : Tree.absence ["dist"] ≠ .nameTooLong := by decide +kernel
  rw [Tree.makeDirectories_of_allowed allowed, path]
  simp [Tree.makeDirectoriesFrom, Tree.next, Tree.content?, Entries.get?, Entries.set, pair, short,
    fitsStack, usualStackLimit]

theorem render_first (read : (pair first second).readText p = .ok "a") :
    Files.render (pair first second) p htmlSettings (.accept []) = .ok (.ok (page "a")) := by
  have chars : "a".toList = ['a'] := by decide +kernel
  have tokens : (Markdown.readTokens {} "a").run {} = .ok (lineTokens "a", {}) := by
    rw [Markdown.readTokens, chars]
    with_unfolding_all rfl
  exact render_of_tree read (document_line tokens) (by with_unfolding_all rfl)

theorem render_second (read : (pair first second).readText p = .ok "b") :
    Files.render (pair first second) p htmlSettings (.accept []) = .ok (.ok (page "b")) := by
  have chars : "b".toList = ['b'] := by decide +kernel
  have tokens : (Markdown.readTokens {} "b").run {} = .ok (lineTokens "b", {}) := by
    rw [Markdown.readTokens, chars]
    with_unfolding_all rfl
  exact render_of_tree read (document_line tokens) (by with_unfolding_all rfl)

theorem outputFits_page (s : String) :
    Tree.outputFits (fun _ => none) "html" (some (page s)) usualStackLimit = true := by
  simp [Tree.outputFits, Markup.fitsHtml, usualStackLimit, page, Markup.htmlFits, Value.nesting]

/-- Nothing is in the way of an output with a short name. -/
theorem fate_pair {text : String} (named : Files.IsName p.name)
    (rendered :
      Files.render (pair first second) p htmlSettings (.accept []) = .ok (.ok (page text)))
    (allowed : (target htmlSettings p).check = .ok ())
    (short : (outputName htmlSettings p).utf8ByteSize ≤ Files.nameLimit) :
    fate (pair first second) htmlSettings p = .done (page text) := by
  refine (fate_eq_done_iff named).2 ⟨rendered, _, made_pair, fun fault hindered => ?_⟩
  have place : outputPlace htmlSettings p = ["dist", outputName htmlSettings p] := by
    with_unfolding_all rfl
  have located : Tree.locate (pair first second ++ [(["dist"], .directory)])
      (target htmlSettings p) = .ok (outputPlace htmlSettings p) :=
    locate_target_of_made named made_pair fun _ there => there
  rw [place] at located
  have free : Tree.content? (pair first second ++ [(["dist"], .directory)])
      ["dist", outputName htmlSettings p] ≠ some .directory := by
    simp [Tree.content?, Entries.get?, pair]
  cases hindered with
  | deep deep =>
    rw [show htmlSettings.outputFormat.name = "html" from rfl, outputFits_page] at deep
    cases deep
  | unwritable _ unwritable =>
    cases unwritable with
    | refused refused =>
      rw [← Files.Path.check_eq_error_iff, allowed] at refused
      cases refused
    | tooLong _ other long =>
      rw [located] at other
      cases other
      exact absurd long (Nat.not_lt.2 short)
    | taken _ other _ directory =>
      rw [located] at other
      cases other
      exact free directory

/-- Both documents are written. -/
theorem exists_run_pair {p' : Path} (wf : (pair first second).WellFormed)
    (found : (pair first second).discover (.ofText htmlCall.path) = [p, p'])
    (read : (pair first second).readText p = .ok "a")
    (read' : (pair first second).readText p' = .ok "b")
    (allowed : ∀ q ∈ [p, p'], (target htmlSettings q).check = .ok ())
    (short : ∀ q ∈ [p, p'], (outputName htmlSettings q).utf8ByteSize ≤ Files.nameLimit) :
    ∃ o, run (pair first second) [] ["render", "docs", "--format", "html"] = .ok o ∧
      o.exitCode = 0 ∧
      o.out = String.join ([p, p'].map (line htmlSettings)) ++ summary htmlSettings 2 ++ "\n" ∧
      ∀ q ∈ [p, p'], ∃ last, Entries.last? stem [p, p'] (stem q) = some last ∧
        Holds (pair first second) o.files htmlSettings (target htmlSettings q) last := by
  have named : ∀ q ∈ [p, p'], Files.IsName q.name :=
    fun q member => Tree.isName_of_mem_discover wf (found ▸ member)
  have all : ∀ q ∈ [p, p'], ∃ m, fate (pair first second) htmlSettings q = .done m := by
    simp only [List.forall_mem_cons] at named allowed short ⊢
    exact ⟨⟨_, fate_pair named.1 (render_first read) allowed.1 short.1⟩,
      ⟨_, fate_pair named.2.1 (render_second read') allowed.2.1 short.2.1⟩, by simp⟩
  obtain ⟨log, t, _, written, ran⟩ :=
    exists_render_of_done loading_pair searchFault?_pair wf (by simp [found]) (found ▸ all)
  rw [found] at written ran
  refine ⟨outcomeOf (.ok (), ⟨_, log, t⟩), ?_, rfl, rfl, ?_⟩
  · rw [run_render invoked_html rfl, ran]
    rfl
  · exact fun q member => exists_holds_target written named all member

end pair

theorem htmlText_page :
    Markup.htmlText (fun _ => none) (some (page "a")) = "<div><p>a</p></div>" ∧
      Markup.htmlText (fun _ => none) (some (page "b")) = "<div><p>b</p></div>" := by
  simp only [Markup.htmlText, Markup.expand, Markup.expandAll, page, Option.bind_some,
    Option.toList_some, List.append_nil]
  decide +kernel

theorem twins_confused :
    Tree.WellFormed (pair "a.md" "a.mdx") ∧
      Invocation.ofArguments ["render", "docs", "--format", "html"] = .ok htmlCall ∧
      loading (pair "a.md" "a.mdx") [] htmlCall.fields = .done htmlSettings ∧
      Tree.discover (pair "a.md" "a.mdx") (.ofText htmlCall.path) =
        [.ofText "docs/a.md", .ofText "docs/a.mdx"] ∧
      ∃ o, run (pair "a.md" "a.mdx") [] ["render", "docs", "--format", "html"] = .ok o ∧
        o.exitCode = 0 ∧
        o.out = "  docs/a.md -> dist/a.html\n  docs/a.mdx -> dist/a.html\n" ++
          "Rendered 2 document(s) to dist/\n" ∧
        target htmlSettings (.ofText "docs/a.md") = .ofText "dist/a.html" ∧
        o.files.at? (.ofText "dist/a.html") = some (.file "<div><p>b</p></div>".toUTF8) ∧
        ¬ Holds (pair "a.md" "a.mdx") o.files htmlSettings (.ofText "dist/a.html")
          (.ofText "docs/a.md") := by
  have wf : Tree.WellFormed (pair "a.md" "a.mdx") := by decide +kernel
  have found : Tree.discover (pair "a.md" "a.mdx") (.ofText htmlCall.path) =
        [.ofText "docs/a.md", .ofText "docs/a.mdx"] :=
    Tree.discover_eq_of_perm wf locate_pair rfl (by decide +kernel) (by decide +kernel)
  have read : Tree.readText (pair "a.md" "a.mdx") (.ofText "docs/a.md") = .ok "a" := by
    decide +kernel
  have read' : Tree.readText (pair "a.md" "a.mdx") (.ofText "docs/a.mdx") = .ok "b" := by
    decide +kernel
  obtain ⟨o, ran, exit, out, held⟩ :=
    exists_run_pair wf found read read' (by decide +kernel) (by decide +kernel)
  have path : target htmlSettings (.ofText "docs/a.md") = .ofText "dist/a.html" := by
    decide +kernel
  have last : Entries.last? stem [.ofText "docs/a.md", .ofText "docs/a.mdx"]
      (stem (.ofText "docs/a.md")) = some (.ofText "docs/a.mdx") := by
    decide +kernel
  have lost : o.files.at? (.ofText "dist/a.html") = some (.file "<div><p>b</p></div>".toUTF8) := by
    obtain ⟨p, other, m, rendered, there⟩ := held _ List.mem_cons_self
    rw [last] at other
    cases other
    rw [render_second read'] at rendered
    cases rendered
    rw [path] at there
    exact htmlText_page.2 ▸ there
  refine ⟨wf, invoked_html, loading_pair, found, o, ran, exit, ?_, path, lost, ?_⟩
  · rw [out]
    decide +kernel
  · rintro ⟨m, rendered, there⟩
    rw [render_first read] at rendered
    cases rendered
    have own : o.files.at? (.ofText "dist/a.html") =
      some (.file "<div><p>a</p></div>".toUTF8) := htmlText_page.1 ▸ there
    rw [lost] at own
    revert own
    decide +kernel

theorem siblings_held :
    Tree.WellFormed (pair "a.md" "b.mdx") ∧
      Invocation.ofArguments ["render", "docs", "--format", "html"] = .ok htmlCall ∧
      htmlCall.command = .render ∧
      ∃ o, run (pair "a.md" "b.mdx") [] ["render", "docs", "--format", "html"] = .ok o ∧
        o.exitCode = 0 ∧
        o.out = "  docs/a.md -> dist/a.html\n  docs/b.mdx -> dist/b.html\n" ++
          "Rendered 2 document(s) to dist/\n" ∧
        Holds (pair "a.md" "b.mdx") o.files htmlSettings (.ofText "dist/a.html")
          (.ofText "docs/a.md") ∧
        Holds (pair "a.md" "b.mdx") o.files htmlSettings (.ofText "dist/b.html")
          (.ofText "docs/b.mdx") := by
  have wf : Tree.WellFormed (pair "a.md" "b.mdx") := by decide +kernel
  have listed : Tree.discover (pair "a.md" "b.mdx") (.ofText htmlCall.path) =
        [.ofText "docs/a.md", .ofText "docs/b.mdx"] :=
    Tree.discover_eq_of_perm wf locate_pair rfl (by decide +kernel) (by decide +kernel)
  have read : Tree.readText (pair "a.md" "b.mdx") (.ofText "docs/a.md") = .ok "a" := by
    decide +kernel
  have read' : Tree.readText (pair "a.md" "b.mdx") (.ofText "docs/b.mdx") = .ok "b" := by
    decide +kernel
  obtain ⟨o, ran, exit, _⟩ :=
    exists_run_pair wf listed read read' (by decide +kernel) (by decide +kernel)
  obtain ⟨settings, found, loaded, rfl, _, out, _, _, _, kept⟩ :=
    rendered_documents_held wf invoked_html rfl ran exit
  rw [loading_pair] at loaded
  cases loaded
  rw [listed] at out kept
  have apart : ([.ofText "docs/a.md", .ofText "docs/b.mdx"].map stem).Nodup := by decide +kernel
  have path : target htmlSettings (.ofText "docs/a.md") = .ofText "dist/a.html" := by
    decide +kernel
  have path' : target htmlSettings (.ofText "docs/b.mdx") = .ofText "dist/b.html" := by
    decide +kernel
  refine ⟨wf, invoked_html, rfl, o, ran, exit, ?_, ?_, ?_⟩
  · rw [out]
    decide +kernel
  · exact path ▸ kept apart _ (by simp)
  · exact path' ▸ kept apart _ (by simp)

end MarkdownTree.Cli
