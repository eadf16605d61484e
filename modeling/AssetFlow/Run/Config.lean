import AssetFlow.Calendar
import AssetFlow.Document.Decode
import AssetFlow.Pipeline

/-!
# What a run is asked to do

The configuration of a run is fixed when it starts and is kept with its state.

## Main definitions

- `TaskKind`: the stages of the work on an asset.
- `RunConfig`: the configuration.
- `RunConfig.kinds`: the stages that a run goes through.
- `RunConfig.validate`: whether a configuration makes sense.
- `readStart`, `readEnd`: the bounds of the window of data.
-/

namespace AssetFlow

open Document

/-- A stage of the work on an asset. -/
inductive TaskKind
  /-- Producing the data. -/
  | main
  /-- Checking the data. -/
  | checks
  /-- Describing the data at its destination. -/
  | pushMetadata
  deriving DecidableEq, Repr, Inhabited

namespace TaskKind

/-- The stages in their order. -/
def all : List TaskKind :=
  [main, checks, pushMetadata]

/-- The name of a stage. -/
def name : TaskKind → String
  | main => "main"
  | checks => "checks"
  | pushMetadata => "push-metadata"

/-- The stage with a name. -/
def ofName? (s : String) : Option TaskKind :=
  all.find? (·.name == s)

/-- The stage with a name, or why there is none. -/
def ofName (s : String) : Except CoreError TaskKind :=
  match ofName? s with
  | some k => .ok k
  | none =>
    .error (.configInvalid s!"unknown task kind '{s}', expected main, checks or push-metadata")

/-- Reads a stage. -/
def read? (n : Node) : Option TaskKind := do
  ofName? (← n.choice?)

end TaskKind

/-- How scripts are run. -/
inductive PackageManager
  | uv | pip
  deriving DecidableEq, Repr, Inhabited

namespace PackageManager

/-- The name of a package manager. -/
def name : PackageManager → String
  | uv => "uv"
  | pip => "pip"

/-- Reads a package manager. -/
def read? (n : Node) : Option PackageManager := do
  let s ← n.choice?
  [uv, pip].find? (·.name == s)

end PackageManager

/-- The configuration of a run. -/
structure RunConfig where
  /-- Whether everything that reads a target is run too. -/
  downstream : Bool := false
  startDate : Moment
  endDate : Moment
  /-- How many tasks may run at once. -/
  workers : Nat := 16
  environment : Option String := none
  force : Bool := false
  pushMetadata : Bool := false
  noLogFile : Bool := false
  fullRefresh : Bool := false
  packageManager : PackageManager := .uv
  /-- Only assets with this tag are run. -/
  tag : Option String := none
  /-- Assets with this tag are not run. -/
  excludeTag : Option String := none
  /-- The stages to go through; none stands for the usual ones. -/
  only : List TaskKind := []
  /-- Whether the latest run is continued. -/
  continueRun : Bool := false
  /-- The assets to run; none stands for all of them. -/
  targets : List String := []
  deriving DecidableEq, Repr, Inhabited

namespace RunConfig

/-- The stages that a run goes through, in their order. -/
def kinds (c : RunConfig) : List TaskKind :=
  if !c.only.isEmpty then TaskKind.all.filter c.only.contains
  else [.main, .checks] ++ (if c.pushMetadata then [.pushMetadata] else [])

/-- Whether a configuration makes sense. -/
def validate (c : RunConfig) : Except CoreError Unit :=
  if c.workers == 0 then .error (.configInvalid "workers must be at least 1")
  else if c.endDate.before c.startDate then
    .error (.configInvalid
      s!"start date {c.startDate.stamp} is after end date {c.endDate.stamp}")
  else .ok ()

/-- Reads a moment. -/
def readMoment? (n : Node) : Option Moment := do
  Moment.readStamp? (← n.text?)

/-- Reads a configuration. -/
def read? (n : Node) : Option RunConfig := do
  let fs ← n.fields? ["Downstream", "StartDate", "EndDate", "Workers", "Environment", "Force",
    "PushMetadata", "NoLogFile", "FullRefresh", "PackageManager", "Tag", "ExcludeTag", "Only",
    "ContinueRun", "Targets"] false
  return {
    downstream := ← fs.required "Downstream" Node.bool?
    startDate := ← fs.required "StartDate" readMoment?
    endDate := ← fs.required "EndDate" readMoment?
    workers := ← fs.required "Workers" Node.unsigned?
    environment := ← fs.optional "Environment" Node.text?
    force := ← fs.required "Force" Node.bool?
    pushMetadata := ← fs.required "PushMetadata" Node.bool?
    noLogFile := ← fs.required "NoLogFile" Node.bool?
    fullRefresh := ← fs.required "FullRefresh" Node.bool?
    packageManager := ← fs.withDefault "PackageManager" .uv PackageManager.read?
    tag := ← fs.optional "Tag" Node.text?
    excludeTag := ← fs.optional "ExcludeTag" Node.text?
    only := ← fs.withDefault "Only" [] (Node.list? TaskKind.read?)
    continueRun := ← fs.withDefault "ContinueRun" false Node.bool?
    targets := ← fs.withDefault "Targets" [] (Node.list? Node.text?) }

/-- Writes a configuration. -/
def write (c : RunConfig) : Value :=
  let given (v : Option String) : Value := .ofOption (v.map .text)
  .fields [("Downstream", .bool c.downstream), ("StartDate", .text c.startDate.stamp),
    ("EndDate", .text c.endDate.stamp), ("Workers", .int c.workers),
    ("Environment", given c.environment), ("Force", .bool c.force),
    ("PushMetadata", .bool c.pushMetadata), ("NoLogFile", .bool c.noLogFile),
    ("FullRefresh", .bool c.fullRefresh), ("PackageManager", .text c.packageManager.name),
    ("Tag", given c.tag), ("ExcludeTag", given c.excludeTag),
    ("Only", .texts (c.only.map TaskKind.name)), ("ContinueRun", .bool c.continueRun),
    ("Targets", .texts c.targets)]

end RunConfig

/-- Reads a bound of the window of data: a moment, or a day, which stands for one of its two bounds.
Both bounds of a day are found by counting from the start of the next one, so the last day has
none. -/
def readBound (ofDay : Moment → Moment) (text : String) : Except CoreError Moment :=
  let text := Text.trim text
  match Moment.readStamp? text with
  | some m => .ok m
  | none =>
    match Moment.readDay? text with
    | none => .error (.invalidDate text)
    | some day => if day.isLastDay then .error .dateOverflow else .ok (ofDay day)

/-- Reads the start of the window of data; a day stands for its first moment. -/
def readStart (text : String) : Except CoreError Moment :=
  readBound Moment.startOfDay text

/-- Reads the end of the window of data; a day stands for its last microsecond. -/
def readEnd (text : String) : Except CoreError Moment :=
  readBound Moment.endOfDay text

end AssetFlow
