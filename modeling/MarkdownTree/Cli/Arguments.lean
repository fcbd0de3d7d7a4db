import MarkdownTree.Value.Basic

/-!
# Arguments of the command line

A command takes options and one path, in any order; what follows two hyphens is no option. An
option sets a field of the settings, to the value behind it or to the one it stands for. Of several
options for one field the last one counts.
-/

namespace MarkdownTree.Cli

/-- Why arguments are refused. -/
inductive UsageFault where
  | noCommand
  | unknownCommand (name : String)
  | unknownOption (name : String)
  | valueMissing (name : String)
  | valueNotTaken (name : String)
  | pathMissing
  | tooManyPaths
  deriving DecidableEq

/-- The text of a fault. -/
def UsageFault.message : UsageFault → String
  | .noCommand => "Missing command."
  | .unknownCommand name => s!"No such command {name}."
  | .unknownOption name => s!"No such option: {name}"
  | .valueMissing name => s!"Option {name} requires an argument."
  | .valueNotTaken name => s!"Option {name} does not take a value."
  | .pathMissing => "Missing argument PATH."
  | .tooManyPaths => "Got unexpected extra arguments."

/-- What an option does. -/
inductive OptionKind where
  /-- Sets a field to the value behind the option. -/
  | value (field : String)
  /-- Sets a field to a truth value. -/
  | flag (field : String) (b : Bool)
  deriving DecidableEq

/-- The options of a command. -/
abbrev OptionTable := Entries String OptionKind

/-- Whether an argument is an option. -/
def isOption (arg : String) : Bool := arg.startsWith "-" && arg ≠ "-"

/-- The name of an option and the value behind an equals sign. -/
def splitOption (arg : String) : String × Option String :=
  let name := arg.toList.takeWhile (· ≠ '=')
  match arg.toList.drop name.length with
  | _ :: value => (String.ofList name, some (String.ofList value))
  | [] => (arg, none)

/-- Options set in front of others, which count if they set the same field. -/
def setBefore (field : String) (v : Value) (rest : Fields × List String) : Fields × List String :=
  (if (Entries.get? rest.1 field).isSome then rest.1 else (field, v) :: rest.1, rest.2)

/-- Reads arguments: the fields that options set, and all other arguments. -/
def readArguments (table : OptionTable) : List String → Except UsageFault (Fields × List String)
  | [] => .ok ([], [])
  | arg :: args =>
    if arg = "--" then .ok ([], args)
    else if !isOption arg then do
      let (fields, others) ← readArguments table args
      return (fields, arg :: others)
    else
      let (name, value?) := splitOption arg
      match Entries.get? table name, value? with
      | none, _ => .error (.unknownOption name)
      | some (.flag field b), none => (readArguments table args).map (setBefore field (.bool b))
      | some (.flag _ _), some _ => .error (.valueNotTaken name)
      | some (.value field), some v => (readArguments table args).map (setBefore field (.string v))
      | some (.value field), none =>
        match args with
        | v :: args => (readArguments table args).map (setBefore field (.string v))
        | [] => .error (.valueMissing name)

/-- What is asked for. -/
inductive Command where
  /-- Renders documents into files. -/
  | render
  /-- Prints the tree of a document. -/
  | ast
  deriving DecidableEq

/-- The options of a command. -/
def Command.options : Command → OptionTable
  | .render =>
    [("--out-dir", .value "output_dir"), ("--format", .value "output_format"),
      ("--parser-config", .value "parser_config"), ("--position", .flag "position" true),
      ("--no-position", .flag "position" false), ("--strict", .flag "strict_references" true),
      ("--lenient", .flag "strict_references" false)]
  | .ast =>
    [("--parser-config", .value "parser_config"), ("--position", .flag "position" true),
      ("--no-position", .flag "position" false)]

/-- The fields that a command asks for: null where no option sets them. -/
def Command.fields (c : Command) (set : Fields) : Fields :=
  Entries.merge (c.options.map fun o => match o.2 with
    | .value field => (field, .null)
    | .flag field _ => (field, .null)) set

/-- The command with a name. -/
def Command.ofName? (name : String) : Option Command :=
  if name = "render" then some .render else if name = "ast" then some .ast else none

/-- All that the arguments say. -/
structure Invocation where
  verbose : Bool
  command : Command
  path : String
  /-- The fields of the settings that options set, null where none does. -/
  fields : Fields

/-- Reads the options in front of the command. -/
def readVerbose : List String → Except UsageFault (Bool × List String)
  | [] => .ok (false, [])
  | arg :: args =>
    if arg = "--" then .ok (false, args)
    else if !isOption arg then .ok (false, arg :: args)
    else if arg = "--verbose" ∨ (arg.toList.drop 1).all (· = 'v') then
      (readVerbose args).map fun r => (true, r.2)
    else .error (.unknownOption arg)

/-- Reads all arguments. -/
def Invocation.ofArguments (args : List String) : Except UsageFault Invocation := do
  let (verbose, args) ← readVerbose args
  match args with
  | [] => .error .noCommand
  | name :: args =>
    match Command.ofName? name with
    | none => .error (.unknownCommand name)
    | some command =>
      let (fields, paths) ← readArguments command.options args
      match paths with
      | [path] => .ok { verbose, command, path, fields := command.fields fields }
      | [] => .error .pathMissing
      | _ => .error .tooManyPaths

end MarkdownTree.Cli
