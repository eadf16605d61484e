import AssetFlow.CommandLine.Arguments
import AssetFlow.Run.Config

/-!
# Commands

What the program can be told to do: to run the assets of a pipeline, or to show the lineage of their
columns.

## Main definitions

- `RunOptions`, `LineageOptions`, `Command`: a command with its options.
- `Invocation.read`: reads a command line.
-/

namespace AssetFlow.CommandLine

/-- The options of a run. -/
structure RunOptions where
  path : String
  assets : List String
  downstream : Bool
  workers : Option Nat
  continueRun : Bool
  force : Bool
  fullRefresh : Bool
  pushMetadata : Bool
  tag : Option String
  excludeTag : Option String
  only : List TaskKind
  startDate : Option String
  endDate : Option String
  environment : Option String
  useUv : Bool
  usePip : Bool
  noLogFile : Bool
  deriving DecidableEq, Repr

/-- How lineage is shown. -/
inductive LineageFormat
  | table | json
  deriving DecidableEq, Repr

namespace LineageFormat

/-- The name of a format. -/
def name : LineageFormat → String
  | table => "table"
  | json => "json"

/-- The format with a name; a table unless another one is named. -/
def ofName : String → LineageFormat
  | "json" => json
  | _ => table

end LineageFormat

/-- The options for showing lineage. -/
structure LineageOptions where
  path : String
  assets : List String
  format : LineageFormat
  deriving DecidableEq, Repr

/-- What the program is told to do. -/
inductive Command
  | run (options : RunOptions)
  | lineage (options : LineageOptions)
  deriving DecidableEq, Repr

/-- A command with what holds for all commands. -/
structure Invocation where
  verbose : Bool
  command : Command
  deriving DecidableEq, Repr

/-! ### Tables of options -/

/-- The options of all commands. -/
def commonOptions : List OptionSpec :=
  [{ name := "verbose", letter := some 'v', kind := .flag },
    { name := "help", letter := some 'h', kind := .help }]

/-- What may stand before a command. -/
def mainOptionTable : OptionTable where
  options := commonOptions ++ [{ name := "version", letter := some 'V', kind := .version }]
  commands := ["run", "lineage", "help"]

/-- The folder of the pipeline. -/
def pathArgument : OptionSpec :=
  { name := "path", kind := .value .path }

/-- The options of a run. -/
def runOptionTable : OptionTable where
  positional := some pathArgument
  options := [{ name := "asset", letter := some 'a', kind := .values .text },
    { name := "downstream", kind := .flag },
    { name := "workers", letter := some 'w', kind := .value .natural,
      envName := some "TRIB_WORKERS" },
    { name := "continue", kind := .flag },
    { name := "force", kind := .flag },
    { name := "full-refresh", kind := .flag },
    { name := "push-metadata", kind := .flag },
    { name := "tag", kind := .value .text },
    { name := "exclude-tag", kind := .value .text },
    { name := "only", kind := .values (.oneOf (TaskKind.all.map TaskKind.name)) },
    { name := "start-date", kind := .value .text },
    { name := "end-date", kind := .value .text },
    { name := "environment", letter := some 'e', kind := .value .text,
      envName := some "TRIB_ENVIRONMENT" },
    { name := "use-uv", kind := .flag },
    { name := "use-pip", kind := .flag },
    { name := "no-log-file", kind := .flag }] ++ commonOptions
  rivals := [("use-uv", "use-pip")]

/-- The options for showing lineage. -/
def lineageOptionTable : OptionTable where
  positional := some pathArgument
  options := [{ name := "asset", letter := some 'a', kind := .values .text },
    { name := "output", letter := some 'o',
      kind := .value (.oneOf [LineageFormat.table.name, LineageFormat.json.name]) }] ++
    commonOptions

/-! ### Reading a command line -/

/-- The path that was given, or the present folder. -/
def pathOf (r : Reading) : String :=
  (r.value? "path").getD "."

/-- The options of a run that were given. -/
def RunOptions.ofReading (r : Reading) : RunOptions where
  path := pathOf r
  assets := r.values "asset"
  downstream := r.has "downstream"
  workers := (r.value? "workers").bind readNatural?
  continueRun := r.has "continue"
  force := r.has "force"
  fullRefresh := r.has "full-refresh"
  pushMetadata := r.has "push-metadata"
  tag := r.value? "tag"
  excludeTag := r.value? "exclude-tag"
  only := (r.values "only").filterMap TaskKind.ofName?
  startDate := r.value? "start-date"
  endDate := r.value? "end-date"
  environment := r.value? "environment"
  useUv := r.has "use-uv"
  usePip := r.has "use-pip"
  noLogFile := r.has "no-log-file"

/-- The options for showing lineage that were given. -/
def LineageOptions.ofReading (r : Reading) : LineageOptions where
  path := pathOf r
  assets := r.values "asset"
  format := .ofName ((r.value? "output").getD "table")

/-- What a wish for help about a command comes to. -/
def helpOn : List String → UsageError
  | [] => .helpWanted
  | [c] => if mainOptionTable.commands.contains c then .helpWanted else .unknownCommand
  | _ => .unknownCommand

namespace Invocation

/-- Reads a command line. -/
def read (environment : List (String × String)) (args : List String) :
    Except UsageError Invocation := do
  let (r, command) ← mainOptionTable.read args {}
  match command with
  | none => .error (if r.given.isEmpty then .nothingGiven else .missingCommand)
  | some ("help", rest) => .error (helpOn rest)
  | some (name, rest) =>
    let table := if name == "run" then runOptionTable else lineageOptionTable
    let (inner, _) ← table.read rest {}
    let inner ← inner.finish table environment
    return {
      verbose := r.has "verbose" || inner.has "verbose"
      command := if name == "run" then .run (.ofReading inner) else .lineage (.ofReading inner) }

/-- The log records that are shown unless the user asks for others. -/
def logDirective (i : Invocation) : String :=
  if i.verbose then "debug" else "warn"

end Invocation

end AssetFlow.CommandLine
