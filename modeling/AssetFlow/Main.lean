import AssetFlow.CommandLine.Session
import Std.Time.Zoned

/-!
# The program

Finds what a command needs to know, carries the command out on it, and keeps what the command
leaves: the folder of the pipeline is read into a tree first, and what is new in the tree is written
back at the end.

## Main definitions

- `bareHost`: what the program finds outside of itself.
- `readPipelineFiles`, `writeChanges`: between a folder and a tree of files.
- `main`: the program.
-/

namespace AssetFlow.CommandLine

/-- The host of a program that neither a database engine is linked to nor can start others. -/
def bareHost : Host where
  engine := { openFault := some "no database engine is linked to this program" }
  runScript _ := .notStarted "this program cannot start others"

/-- The wording of a fault found in a file. -/
def faultWording : CoreError → String
  | .definitionFault _ => "it is not a definition"
  | .documentFault => "it is not the state of a run"
  | _ => "it cannot be read or written"

/-- The variables of the environment that options have. -/
def environmentNames : List String :=
  runOptionTable.options.filterMap OptionSpec.envName

/-- The text of a place in a tree. -/
def placeText (p : Place) : String :=
  "/" ++ "/".intercalate p

/-- Reads the environment. -/
def readEnvironment : IO (List (String × String)) :=
  environmentNames.filterMapM fun name => return (← IO.getEnv name).map fun value => (name, value)

/-- Reads the clock. -/
def readClock : IO Moment := do
  let now ← Std.Time.PlainDateTime.now
  return { year := now.year.toInt, month := now.month.toNat, day := now.day.toNat,
           hour := now.hour.toNat, minute := now.minute.toNat, second := now.second.toNat,
           nano := now.nanosecond.toNat }

/-- Reads a file, or a folder and all below it, if there is anything at the path. -/
partial def readBelow (t : Tree) (path : String) : IO Tree := do
  let entry ← try IO.FS.realPath path catch _ => return t
  if ← entry.isDir then
    let t := (t.makeFolders path).getD t
    (← entry.readDir).foldlM (fun t e => readBelow t (Path.join path e.fileName)) t
  else if ← entry.pathExists then
    return (t.write path (← IO.FS.readBinFile entry)).getD t
  else
    return t

/-- Reads what a pipeline has in a folder. -/
def readPipelineFiles (root : String) : IO Tree :=
  ["pipeline.yml", "pipeline.yaml", "assets", "logs"].foldlM
    (fun t name => readBelow t (Path.join root name)) ((Tree.makeFolders {} root).getD {})

/-- Writes what is new in a tree. -/
def writeChanges (before after : Tree) : IO Unit := do
  for (place, entry) in after.entries do
    if before.entryAt? place != some entry then
      match entry with
      | .folder => IO.FS.createDirAll (placeText place)
      | .file bytes =>
        IO.FS.createDirAll (placeText place.dropLast)
        IO.FS.writeBinFile (placeText place) bytes

/-- Carries out a command and gives the exit code. -/
def Invocation.perform (i : Invocation) : IO UInt32 := do
  let here := toString (← IO.currentDir)
  let path := match i.command with
    | .run o => o.path
    | .lineage o => o.path
  let files ← readPipelineFiles (Path.join here path)
  let done := i.carryOut { here, now := ← readClock, files, host := bareHost }
  writeChanges files done.files
  done.details.forM fun line => IO.eprintln line
  IO.print done.shown
  match done.result with
  | .ok code => return code.toUInt32
  | .error e =>
    IO.eprintln ("Error: " ++ e.account faultWording)
    return failedCode.toUInt32

end AssetFlow.CommandLine

open AssetFlow.CommandLine in
/-- The program. -/
def main (args : List String) : IO UInt32 := do
  match Invocation.read (← readEnvironment) args with
  | .ok invocation => invocation.perform
  | .error e =>
    IO.eprintln e.message
    return e.exitCode
