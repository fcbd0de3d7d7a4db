import MarkdownTree.Entries
import MarkdownTree.Files.Path
import MarkdownTree.Stack
import MarkdownTree.Text.LineEnd
import MarkdownTree.Text.Quoted
import MarkdownTree.Text.Utf8

/-!
# Trees of files

The files and directories below the working directory, by the parts of their paths. Reading and
writing answer as a file system does: they fail if something on the way is missing, is a file where
a directory is needed, or the other way round, and names and paths can be too long for them. There
is nothing above the working directory: it is its own parent, and absolute paths begin there too.
-/

namespace MarkdownTree.Files

/-- What stands at a path. -/
inductive Content where
  | file (bytes : ByteArray)
  | directory

instance : DecidableEq Content
  | .file a, .file b =>
    match ByteArray.instDecidableEq a b with
    | isTrue h => isTrue (h ▸ rfl)
    | isFalse h => isFalse fun same => h (Content.file.inj same)
  | .directory, .directory => isTrue rfl
  | .file _, .directory => isFalse nofun
  | .directory, .file _ => isFalse nofun

/-- The files and directories below the working directory. -/
abbrev Tree := Entries (List String) Content

/-- Why a file cannot be read or written. -/
inductive Fault where
  | notFound
  | notDirectory
  | isDirectory
  | alreadyExists
  | nameTooLong
  /-- The path holds the null character, which no path can hold. -/
  | nullCharacter
  /-- The bytes are not the UTF-8 form of a text. -/
  | notText (what : Text.Undecodable)
  /-- More calls are needed than there is room for. -/
  | stackExhausted
  deriving DecidableEq

/-- The text of a fault at a path. -/
def Fault.message (f : Fault) (p : Path) : String :=
  let ofSystem (cause : String) : String := cause ++ ": " ++ Text.quoted p.text
  match f with
  | .notFound => ofSystem "[Errno 2] No such file or directory"
  | .notDirectory => ofSystem "[Errno 20] Not a directory"
  | .isDirectory => ofSystem "[Errno 21] Is a directory"
  | .alreadyExists => ofSystem "[Errno 17] File exists"
  | .nameTooLong => ofSystem "[Errno 36] File name too long"
  | .nullCharacter => "embedded null byte"
  | .notText what => what.message
  | .stackExhausted => "maximum recursion depth exceeded"

/-- Whether a fault is one that the system reports. -/
def Fault.isOfSystem : Fault → Bool
  | .nullCharacter | .notText _ | .stackExhausted => false
  | _ => true

/-- A change that failed on the way: why, and what the files are by then. -/
structure Breakdown where
  fault : Fault
  files : Tree

/-- The number of bytes that a name can have. -/
def nameLimit : Nat := 255

/-- The number of bytes that the text of a path can have. -/
def pathLimit : Nat := 4095

/-- Refuses the paths that no file system takes. -/
def Path.check (p : Path) : Except Fault Unit :=
  if '\x00' ∈ p.text.toList then .error .nullCharacter
  else if pathLimit < p.text.utf8ByteSize then .error .nameTooLong
  else .ok ()

namespace Tree

/-- What stands at a place; the working directory is a directory. -/
def content? (t : Tree) (place : List String) : Option Content :=
  if place.isEmpty then some .directory else Entries.get? t place

/-- Why there is nothing at a place where there is nothing. -/
def absence (place : List String) : Fault :=
  if nameLimit < (place.getLast?.getD "").utf8ByteSize then .nameTooLong else .notFound

/-- The place that one part of a path leads to. -/
def next (place : List String) (part : String) : List String :=
  if part = ".." then place.dropLast else place ++ [part]

/-- The place that a path leads to from the directory `place` on. What is on the way has to be
there; what the path ends at need not be. -/
def follow (t : Tree) (place : List String) : List String → Except Fault (List String)
  | [] => .ok place
  | part :: parts =>
    match t.content? place with
    | none => .error (absence place)
    | some (.file _) => .error .notDirectory
    | some .directory => follow t (next place part) parts

/-- The place that a path leads to. -/
def locate (t : Tree) (p : Path) : Except Fault (List String) := t.follow [] p.parts

/-- What stands at a path. -/
def at? (t : Tree) (p : Path) : Option Content :=
  match t.locate p with
  | .ok place => t.content? place
  | .error _ => none

/-- The bytes of a file. -/
def readBytes (t : Tree) (p : Path) : Except Fault ByteArray := do
  let place ← t.locate p
  match t.content? place with
  | some (.file bytes) => .ok bytes
  | some .directory => .error .isDirectory
  | none => .error (absence place)

/-- The text of a file, with line feeds for all line ends. -/
def readText (t : Tree) (p : Path) : Except Fault String := do
  p.check
  let bytes ← t.readBytes p
  match String.fromUTF8? bytes with
  | some s => .ok (String.ofList (Text.unifyLineEnds s.toList))
  | none => .error (.notText (Text.undecodable bytes))

/-- Writes a file into a directory that is there. -/
def writeText (t : Tree) (p : Path) (text : String) : Except Fault Tree := do
  p.check
  let place ← t.locate p
  if absence place = .nameTooLong then throw .nameTooLong
  if t.content? place = some .directory then throw .isDirectory
  return Entries.set t place (.file text.toUTF8)

/-- Makes the directories of a path, from the directory `place` on, where they are missing; `begun`
says whether some were made already. Every one that is missing waits for the one above it to be
made, so they take a call each. -/
def makeDirectoriesFrom (stackLimit : Option Nat) (t : Tree) (place : List String) (begun : Bool) :
    List String → Except Breakdown Tree
  | [] => .ok t
  | part :: parts =>
    let place := next place part
    match t.content? place with
    | some .directory => makeDirectoriesFrom stackLimit t place begun parts
    | some (.file _) =>
      .error ⟨if begun || parts.isEmpty then .alreadyExists else .notDirectory, t⟩
    | none =>
      if absence place = .nameTooLong then .error ⟨.nameTooLong, t⟩
      else if begun || fitsStack stackLimit (parts.length + 1) then
        makeDirectoriesFrom stackLimit (Entries.set t place .directory) place true parts
      else .error ⟨.stackExhausted, t⟩

/-- Makes the directories of a path where they are missing. -/
def makeDirectories (t : Tree) (p : Path) (stackLimit : Option Nat := usualStackLimit) :
    Except Breakdown Tree := do
  p.check.mapError (⟨·, t⟩)
  t.makeDirectoriesFrom stackLimit [] false p.parts

end Tree

end MarkdownTree.Files
