import MarkdownTree.Cli.Arguments
import MarkdownTree.Config
import MarkdownTree.Files.Document
import MarkdownTree.Node.Dump

/-!
# Running a command

A run takes the files, the environment and the arguments, and gives what is written: to the two
outputs and to files. A run that meets something it is not prepared for is broken off.
-/

namespace MarkdownTree.Cli

open Files (Path Tree)

/-- What breaks a run off. -/
inductive Escape where
  | file (fault : Files.Fault)
  | config (fault : ConfigFault)
  /-- Overrides are refused or a conversion fails in a way of its own. -/
  | rendering
  /-- A tree cannot be printed. -/
  | printing

/-- How a run ends. -/
inductive Ending where
  | done
  /-- With a message to the user. -/
  | failed
  | escaped (cause : Escape)

/-- What a run has written so far. -/
structure Progress where
  out : String := ""
  err : String := ""
  files : Tree

/-- A step of a run. -/
abbrev Run := ExceptT Ending (StateM Progress)

/-- Writes a line. -/
def say (line : String) : Run Unit := modify fun p => { p with out := p.out ++ line ++ "\n" }

/-- Writes a line for the user or a log. -/
def note (line : String) : Run Unit := modify fun p => { p with err := p.err ++ line ++ "\n" }

/-- Ends a run with a message and perhaps its cause. -/
def fail (message : String) (cause : Option String) : Run α := do
  note ("Error: " ++ message)
  if let some cause := cause then note ("  " ++ cause)
  throw .failed

/-- Goes on with a result; a fault breaks the run off. -/
def orBreak (escape : ε → Escape) (r : Except ε α) : Run α :=
  match r with
  | .ok a => return a
  | .error e => throw (.escaped (escape e))

/-- Goes on with the files after a change. A change that fails on the way breaks the run off, but
what was done until then stays. -/
def change (r : Except Files.Breakdown (Tree × α)) : Run α :=
  match r with
  | .ok (files, a) => do
    modify ({ · with files })
    return a
  | .error broken => do
    modify ({ · with files := broken.files })
    throw (.escaped (.file broken.fault))

section steps

variable (stackLimit : Option Nat)

/-- The settings of all layers. What is wrong with their contents is told to the user, if there are
words for it. -/
def loadSettings (environment : Entries String String) (fields : Fields) : Run Settings := do
  let files := (← get).files
  let path : Path := .ofText configFile
  let text ← match files.at? path with
    | none => pure none
    | some _ =>
      match files.readText path with
      | .ok text => pure (some text)
      | .error (.notText what) => fail what.message none
      | .error fault => throw (.escaped (.file fault))
  match Config.load text environment fields stackLimit with
  | .ok settings => return settings
  | .error fault =>
    match fault.message? with
    | some message => fail message none
    | none => throw (.escaped (.config fault))

/-- Logs that a document has been read. -/
def logDocument (n : Node) : Run Unit :=
  note s!"DEBUG mdvdom.core.parse: Parsed markdown into {n.childList.length} top-level node(s)"

/-- Logs what rendering a document does before it fails or ends. -/
def logRendering (settings : Settings) (p : Path) : Run Unit := do
  match Files.parse (← get).files p settings.position settings.parserConfig stackLimit with
  | .error _ => return ()
  | .ok n =>
    logDocument n
    match (Conversion.start (References.collect n [] settings stackLimit)).1 with
    | .error _ => return ()
    | .ok r =>
      note (s!"DEBUG mdvdom.core.collect: Collected {r.definitions.length} definition(s), " ++
        s!"{r.footnotes.length} footnote(s)")

/-- The text of a failed rendering, with its source where reading has failed. -/
def renderingMessage? (source : Path) : Rendering.Fault → Option String
  | .unreadable fault => some (Files.faultOf source fault.message)
  | .failed (.props _) | .failed .stackExhausted => none
  | .failed failure => some failure.message
  | .refused _ => none

/-- Renders one document into a file. -/
def renderFile (verbose : Bool) (settings : Settings) (p : Path) : Run Unit := do
  let result ← orBreak .file (Files.render (← get).files p settings (.accept []) stackLimit)
  if verbose then logRendering stackLimit settings p
  match result with
  | .error fault =>
    match renderingMessage? p fault with
    | some message => fail ("Failed to render " ++ p.text) (some message)
    | none => throw (.escaped .rendering)
  | .ok m =>
    let target ← change ((← get).files.writeOutput (fun _ => none) (.ofText settings.outputDir)
      (Path.stem p.name) settings.outputFormat.name m stackLimit)
    say ("  " ++ p.text ++ " -> " ++ target.text)

/-- Renders the documents at a path into files, in their order. -/
def render (environment : Entries String String) (call : Invocation) : Run Unit := do
  let settings ← loadSettings stackLimit environment call.fields
  let files := (← get).files
  if let some fault := files.searchFault? (.ofText call.path) stackLimit then
    throw (.escaped (.file fault))
  let found := files.discover (.ofText call.path)
  if found.isEmpty then
    say ("No .md/.mdx files found at " ++ call.path ++ ".")
    throw .failed
  found.forM (renderFile stackLimit call.verbose settings)
  say s!"Rendered {found.length} document(s) to {(Path.ofText settings.outputDir).text}/"

/-- The nesting of nodes and of their data up to which a tree is printed. -/
def printLimit : Nat := 255

/-- Whether a tree can be printed. The front matter is read again, as the values in the tree do not
say what they stand for; the tree and its node are two levels around it. -/
def isPrintable (n : Node) : Bool :=
  n.height ≤ printLimit && n.childList.all fun c =>
    c.kind ≠ "yaml" || FrontMatter.isWritable (printLimit - 2) (c.value.getD "")

/-- Prints the tree of the document in a file. -/
def ast (environment : Entries String String) (call : Invocation) : Run Unit := do
  let settings ← loadSettings stackLimit environment call.fields
  let path : Path := .ofText call.path
  let failure := "Failed to parse " ++ call.path
  match Files.parse (← get).files path settings.position settings.parserConfig stackLimit with
  | .error (.file fault) =>
    if fault.isOfSystem then fail failure (some (fault.message path))
    else throw (.escaped (.file fault))
  | .error (.text source fault) => fail failure (some (Files.faultOf source fault.message))
  | .ok n =>
    if call.verbose then logDocument n
    if isPrintable n then say (Json.print Json.Style.tree n.toValue) else throw (.escaped .printing)

end steps

/-- What a run comes to. -/
structure Outcome where
  ending : Ending
  out : String
  err : String
  files : Tree

/-- The exit code of a run that the arguments allow. -/
def Outcome.exitCode (o : Outcome) : Nat :=
  match o.ending with
  | .done => 0
  | _ => 1

/-- Runs the command that the arguments ask for. -/
def run (files : Tree) (environment : Entries String String) (args : List String)
    (stackLimit : Option Nat := usualStackLimit) : Except UsageFault Outcome := do
  let call ← Invocation.ofArguments args
  let body := match call.command with
    | .render => render stackLimit environment call
    | .ast => ast stackLimit environment call
  match StateT.run (ExceptT.run body) { files } with
  | (.ok (), p) => return { ending := .done, out := p.out, err := p.err, files := p.files }
  | (.error ending, p) => return { ending, out := p.out, err := p.err, files := p.files }

end MarkdownTree.Cli
