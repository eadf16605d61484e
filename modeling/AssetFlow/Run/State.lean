import AssetFlow.Document.Json
import AssetFlow.Run.Config

/-!
# The state of a run

The status of every asset within a run, and the text that it is kept as.

## Main definitions

- `AssetStatus`, `SkipReason`: how far an asset is, and why it is not run.
- `RunState`: the state of a run.
- `RunState.record`: notes the status of an asset.
- `RunState.text`, `RunState.ofText?`: the text of a state and the state of a text.
-/

namespace AssetFlow

open Document

/-- How far an asset is. -/
inductive AssetStatus
  | pending | running | succeeded | failed | skipped
  deriving DecidableEq, Repr, Inhabited

namespace AssetStatus

/-- The statuses. -/
def all : List AssetStatus :=
  [pending, running, succeeded, failed, skipped]

/-- The name of a status. -/
def name : AssetStatus → String
  | pending => "pending"
  | running => "running"
  | succeeded => "succeeded"
  | failed => "failed"
  | skipped => "skipped"

/-- The status with a name. -/
def ofName? (s : String) : Option AssetStatus :=
  all.find? (·.name == s)

/-- Whether nothing more happens to the asset in the run. -/
def isTerminal : AssetStatus → Bool
  | succeeded | failed | skipped => true
  | pending | running => false

/-- Reads a status. -/
def read? (n : Node) : Option AssetStatus := do
  ofName? (← n.choice?)

end AssetStatus

/-- Why an asset is not run. -/
inductive SkipReason
  /-- It was not selected. -/
  | filtered
  /-- The run that is continued completed it. -/
  | previouslySucceeded
  deriving DecidableEq, Repr, Inhabited

namespace SkipReason

/-- The name of a reason in documents. -/
def name : SkipReason → String
  | filtered => "filtered"
  | previouslySucceeded => "previously_succeeded"

/-- The reason with a name. -/
def ofName? (s : String) : Option SkipReason :=
  [filtered, previouslySucceeded].find? (·.name == s)

/-- The reason as it is shown to the user. -/
def text : SkipReason → String
  | filtered => "filtered"
  | previouslySucceeded => "succeeded in previous run"

/-- Reads a reason. -/
def read? (n : Node) : Option SkipReason := do
  ofName? (← n.choice?)

end SkipReason

/-- The status of one asset. -/
structure AssetState where
  name : String
  status : AssetStatus
  /-- Why the asset is skipped, if it is. -/
  reason : Option SkipReason := none
  deriving DecidableEq, Repr, Inhabited

namespace AssetState

/-- Whether a run that continues need not run the asset. -/
def isComplete (s : AssetState) : Bool :=
  match s.status with
  | .succeeded => true
  | .skipped => s.reason == some .previouslySucceeded
  | _ => false

/-- Reads the status of an asset. -/
def read? (n : Node) : Option AssetState := do
  let fs ← n.fields? ["Name", "Status", "SkipReason"] false
  return ⟨← fs.required "Name" Node.text?, ← fs.required "Status" AssetStatus.read?,
    ← fs.optional "SkipReason" SkipReason.read?⟩

/-- Writes the status of an asset. -/
def write (s : AssetState) : Value :=
  .fields <| [("Name", .text s.name), ("Status", .text s.status.name)] ++
    match s.reason with
    | some r => [("SkipReason", .text r.name)]
    | none => []

end AssetState

/-- What wrote a state. -/
structure Metadata where
  version : String := "0.1.2"
  os : String := "linux"
  deriving DecidableEq, Repr, Inhabited

namespace Metadata

/-- Reads what wrote a state. -/
def read? (n : Node) : Option Metadata := do
  let fs ← n.fields? ["Version", "OS"] false
  return ⟨← fs.required "Version" Node.text?, ← fs.required "OS" Node.text?⟩

/-- Writes what wrote a state. -/
def write (m : Metadata) : Value :=
  .fields [("Version", .text m.version), ("OS", .text m.os)]

end Metadata

/-- The state of a run. -/
structure RunState where
  parameters : RunConfig
  metadata : Metadata := {}
  assets : List AssetState
  /-- The version of the layout of the text. -/
  version : String := "1.0.0"
  /-- The fingerprint of the pipeline. -/
  fingerprint : String
  deriving DecidableEq, Repr, Inhabited

namespace RunState

/-- The state at the start of a run: nothing has happened. -/
def start (parameters : RunConfig) (fingerprint : String) (names : List String) : RunState :=
  { parameters, fingerprint, assets := names.map fun n => ⟨n, .pending, none⟩ }

/-- The entry of an asset. -/
def entryOf? (s : RunState) (name : String) : Option AssetState :=
  s.assets.find? (·.name == name)

/-- The status of an asset. -/
def status? (s : RunState) (name : String) : Option AssetStatus :=
  (s.entryOf? name).map (·.status)

/-- Whether a run that continues this one need not run the asset. -/
def isComplete (s : RunState) (name : String) : Bool :=
  match s.entryOf? name with
  | some e => e.isComplete
  | none => false

/-- Puts an entry in place of the first one with its name, or at the end. -/
def put (new : AssetState) : List AssetState → List AssetState
  | [] => [new]
  | e :: rest => if e.name == new.name then new :: rest else e :: put new rest

/-- Notes the status of an asset. -/
def record (s : RunState) (name : String) (status : AssetStatus) : RunState :=
  { s with assets := put ⟨name, status, none⟩ s.assets }

/-- Notes that an asset is skipped. -/
def skip (s : RunState) (name : String) (reason : SkipReason) : RunState :=
  { s with assets := put ⟨name, .skipped, some reason⟩ s.assets }

/-- Whether the state belongs to a pipeline with this fingerprint. -/
def isCompatible (s : RunState) (fingerprint : String) : Bool :=
  s.fingerprint == fingerprint

/-- How many assets have a status. -/
def count (s : RunState) (status : AssetStatus) : Nat :=
  (s.assets.filter (·.status == status)).length

/-- Reads a state. -/
def read? (n : Node) : Option RunState := do
  let fs ← n.fields? ["Parameters", "Metadata", "State", "Version", "CompatibilityHash"] false
  return {
    parameters := ← fs.required "Parameters" RunConfig.read?
    metadata := ← fs.required "Metadata" Metadata.read?
    assets := ← fs.required "State" (Node.list? AssetState.read?)
    version := ← fs.required "Version" Node.text?
    fingerprint := ← fs.required "CompatibilityHash" Node.text? }

/-- Writes a state. -/
def write (s : RunState) : Value :=
  .fields [("Parameters", s.parameters.write), ("Metadata", s.metadata.write),
    ("State", .list (s.assets.map AssetState.write)), ("Version", .text s.version),
    ("CompatibilityHash", .text s.fingerprint)]

/-- The text of a state. -/
def text (s : RunState) : String :=
  Json.pretty s.write

/-- The state of a text. -/
def ofText? (s : String) : Option RunState := do
  read? (← Json.read s).node

end RunState

end AssetFlow
