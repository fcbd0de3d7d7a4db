import MarkdownTree.Cli.Run

/-!
# The program

Reads the files below the working directory and the variables of the environment, runs the command
and writes what it has written.
-/

namespace MarkdownTree.Cli

/-- Reads a file, or a directory with all that is below it. -/
partial def readEntry (place : List String) (e : IO.FS.DirEntry) : IO Files.Tree := do
  let place := place ++ [e.fileName]
  if ← e.path.isDir then
    let below ← (← e.path.readDir).toList.mapM (readEntry place)
    return (place, .directory) :: below.flatten
  else return [(place, .file (← IO.FS.readBinFile e.path))]

/-- Reads the files below the working directory. -/
def readFiles : IO Files.Tree := do
  let entries ← (← IO.FS.realPath ".").readDir
  return (← entries.toList.mapM (readEntry [])).flatten

/-- Reads the variables that set fields of the settings. -/
def readEnvironment : IO (Entries String String) := do
  let values ← Settings.fieldNames.mapM fun field => do
    let name := Config.variableName field
    return (← IO.getEnv name).map fun value => (name, value)
  return values.filterMap id

/-- Writes what a run has added or changed. -/
def writeFiles (before after : Files.Tree) : IO Unit :=
  after.forM fun (place, content) => do
    if Entries.get? before place ≠ some content then
      let path := "/".intercalate place
      match content with
      | .directory => IO.FS.createDirAll path
      | .file bytes => IO.FS.writeBinFile path bytes

end MarkdownTree.Cli

open MarkdownTree in
def main (args : List String) : IO UInt32 := do
  let files ← Cli.readFiles
  match Cli.run files (← Cli.readEnvironment) args with
  | .error fault =>
    IO.eprintln ("Error: " ++ fault.message)
    return 2
  | .ok outcome =>
    Cli.writeFiles files outcome.files
    IO.print outcome.out
    IO.eprint outcome.err
    return UInt32.ofNat outcome.exitCode
