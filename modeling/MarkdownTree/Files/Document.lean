import MarkdownTree.Files.Tree
import MarkdownTree.Markup.Dump
import MarkdownTree.Markup.Html
import MarkdownTree.Rendering

/-!
# Files with documents

Documents are found by the suffixes of their names, read and rendered, and what they become is
written into a directory.
-/

namespace MarkdownTree.Files

/-- The suffixes of documents. -/
def documentSuffixes : List String := [".md", ".mdx"]

/-- Whether a name is one of a document. -/
def isDocumentName (name : String) : Bool := documentSuffixes.contains (Path.suffix name)

namespace Tree

/-- The places below a directory whose names are those of documents. -/
def documentPlaces (t : Tree) (place : List String) : List (List String) :=
  (t.map Prod.fst).filter fun q =>
    place.isPrefixOf q && place.length < q.length && isDocumentName (q.getLast?.getD "")

/-- The documents at a path: a file itself, or what stands below a directory, in the order of the
parts of the paths. -/
def discover (t : Tree) (p : Path) : List Path :=
  match t.locate p with
  | .error _ => []
  | .ok place =>
    match t.content? place with
    | none => []
    | some (.file _) => if isDocumentName p.name then [p] else []
    | some .directory =>
      ((t.documentPlaces place).map fun q =>
        { p with parts := p.parts ++ q.drop place.length }).mergeSort fun a b =>
          (compare a.parts b.parts).isLE

/-- The directories below a directory, by the parts of the paths from there on. -/
def directoriesBelow (t : Tree) (place : List String) : List (List String) :=
  t.filterMap fun (q, c) =>
    if c = .directory && place.isPrefixOf q && place.length < q.length then
      some (q.drop place.length)
    else none

/-- What breaks the search for documents at a path off: the path is too long to be looked at, or one
of the directories below, which are entered one inside the other. A path that no name can be in
leads nowhere. -/
def searchFault? (t : Tree) (p : Path) (stackLimit : Option Nat := usualStackLimit) :
    Option Fault :=
  match p.check, t.locate p with
  | .error .nameTooLong, _ => some .nameTooLong
  | .error _, _ => none
  | .ok (), .error .nameTooLong => some .nameTooLong
  | .ok (), .error _ => none
  | .ok (), .ok place =>
    match t.content? place with
    | some (.file _) => none
    | some .directory =>
      let below := t.directoriesBelow place
      if below.any fun rest => pathLimit < (p.below rest).text.utf8ByteSize then some .nameTooLong
      else if below.all fun rest => fitsStack stackLimit rest.length then none
      else some .stackExhausted
    | none => if absence place = .nameTooLong then some .nameTooLong else none

/-- What markup is written as: as HTML or, in any other format, as JSON. -/
def outputText (components : String → Option Markup.Component) (format : String)
    (m : Option Markup) : String :=
  if format = "html" then Markup.htmlText components m else Markup.json (some 2) m

/-- Whether the stack has room for writing markup. -/
def outputFits (components : String → Option Markup.Component) (format : String)
    (m : Option Markup) (stackLimit : Option Nat) : Bool :=
  if format = "html" then Markup.fitsHtml components m stackLimit
  else Markup.fitsJson m stackLimit

/-- Writes markup into a directory, which is made if it is missing. Gives the path of the file
too. -/
def writeOutput (t : Tree) (components : String → Option Markup.Component) (directory : Path)
    (stem format : String) (m : Option Markup) (stackLimit : Option Nat := usualStackLimit) :
    Except Breakdown (Tree × Path) := do
  let t ← t.makeDirectories directory stackLimit
  if !outputFits components format m stackLimit then throw ⟨.stackExhausted, t⟩
  let target := directory.join (.ofText (stem ++ "." ++ format))
  let t ← (t.writeText target (outputText components format m)).mapError (⟨·, t⟩)
  return (t, target)

end Tree

/-- Why a file makes no document. -/
inductive DocumentFault where
  | file (fault : Fault)
  /-- The text of the file makes no document. -/
  | text (source : Path) (fault : Markdown.DocumentFault)

/-- The text of the fault of a document with its source. -/
def faultOf (source : Path) (message : String) : String := source.text ++ ": " ++ message

/-- The document in a file. -/
def parse (t : Tree) (p : Path) (position : Bool) (preset : String)
    (stackLimit : Option Nat := usualStackLimit) : Except DocumentFault Node := do
  let text ← (t.readText p).mapError .file
  (Markdown.document preset [] position text stackLimit).mapError (.text p)

/-- Renders the document in a file. -/
def render (t : Tree) (p : Path) (settings : Settings) (overrides : Check Overrides)
    (stackLimit : Option Nat := usualStackLimit) :
    Except Fault (Except Rendering.Fault (Option Markup)) := do
  return (Rendering.render settings none [] overrides (← t.readText p) stackLimit).1

end MarkdownTree.Files
