import AssetFlow.Run.State

/-!
# Planning a run

A plan lists the tasks of a run, producers first, with the tasks that each of them waits for, and
the assets that are left out with the reason.

## Main definitions

- `TaskId`, `PlannedTask`: tasks.
- `RunPlan.selected`: the assets that a configuration asks for.
- `RunPlan.toRerun`: those of them that a previous run did not complete, and all that read them.
- `RunPlan.build`: the plan of a run.

## Design notes

A task waits only for tasks before it in the plan, so a plan cannot wait for itself.
-/

namespace AssetFlow

/-- A stage of the work on an asset, as a task. -/
structure TaskId where
  asset : AssetName
  kind : TaskKind
  deriving DecidableEq, Repr

namespace TaskId

/-- The task as it is shown to the user. -/
def text (t : TaskId) : String :=
  t.asset.text ++ ":" ++ t.kind.name

end TaskId

/-- A task with the places of the tasks that it waits for, in ascending order. -/
structure PlannedTask where
  id : TaskId
  waitsFor : List Nat
  deriving DecidableEq, Repr

/-- Why there is no run. -/
inductive RunError
  | core (e : CoreError)
  | incompatibleState (expected found : String)
  | noPreviousState (folder : String)
  | unknownAsset (name : String)
  deriving DecidableEq, Repr

namespace RunError

/-- The message of an error, where `fault` stands for the wording of a fault found in a file. -/
def message (fault : CoreError → String) : RunError → String
  | core e => "[R001] " ++ e.message fault
  | incompatibleState expected found =>
    "[R002] Previous run state is not compatible with the current pipeline (expected hash " ++
      expected ++ ", found " ++ found ++ ")"
  | noPreviousState folder => "[R003] No previous run state found in " ++ folder
  | unknownAsset name => "[R004] Asset not found: " ++ name

/-- The message of an error, followed by what caused it. -/
def account (fault : CoreError → String) (e : RunError) : String :=
  match e with
  | core cause => e.message fault ++ ": " ++ cause.account fault
  | _ => e.message fault

end RunError

/-- The tasks of a run and the assets that it leaves out. -/
structure RunPlan where
  tasks : List PlannedTask
  /-- The assets that are left out, in the order of their names. -/
  skipped : List (AssetName × SkipReason)
  /-- The fingerprint of the pipeline. -/
  fingerprint : String
  deriving DecidableEq, Repr

namespace RunPlan

/-- The assets that the targets of a configuration name, with all that reads them if the
configuration asks for it. -/
def targeted (p : Pipeline) (g : AssetGraph) (c : RunConfig) :
    Except RunError (List AssetName) :=
  if c.targets.isEmpty then .ok p.names
  else do
    let groups ← c.targets.mapM fun target =>
      match p.asset? target with
      | none => Except.error (RunError.unknownAsset target)
      | some a => .ok (a.name :: if c.downstream then g.descendants target else [])
    return groups.flatten

/-- Whether the tags of an asset let it take part in a run. -/
def admits (c : RunConfig) (a : Asset) : Bool :=
  (match c.tag with
    | some t => a.hasTag t
    | none => true) &&
  match c.excludeTag with
  | some t => !a.hasTag t
  | none => true

/-- The assets that a configuration asks for. -/
def selected (p : Pipeline) (g : AssetGraph) (c : RunConfig) :
    Except RunError (List AssetName) := do
  let names ← targeted p g c
  return names.filter fun n =>
    match p.asset? n.text with
    | some a => admits c a
    | none => c.tag.isNone

/-- The selected assets that a previous run did not complete, and the selected assets that read
them. -/
def toRerun (g : AssetGraph) (selected : List AssetName) (previous : RunState) : List AssetName :=
  let incomplete := selected.filter fun n => !previous.isComplete n.text
  -- readers that were complete are out of date, however far away they are
  let readers := incomplete.flatMap fun n => g.descendants n.text
  incomplete ++ readers.filter selected.contains

/-- The tasks of an asset, stage by stage; there is nothing to check where no checks are
declared. -/
def tasksOf (kinds : List TaskKind) (a : Asset) : List TaskId :=
  (kinds.filter fun k => k != .checks || a.hasChecks).map (⟨a.name, ·⟩)

/-- Whether a task must wait for another. Producing data waits until all that it is read from is
produced and checked, the other stages wait until the asset itself is produced. -/
def mustWait (ancestors : List AssetName) (task other : TaskId) : Bool :=
  match task.kind with
  | .main => (other.kind == .main || other.kind == .checks) && ancestors.contains other.asset
  | .checks | .pushMetadata => other == ⟨task.asset, .main⟩

/-- The places of the tasks that satisfy a condition. -/
def placesWhere (ids : List TaskId) (f : TaskId → Bool) : List Nat :=
  (ids.zipIdx.filter fun (t, _) => f t).map (·.2)

/-- The tasks with what they wait for. -/
def withWaits (g : AssetGraph) (ids : List TaskId) : List PlannedTask :=
  ids.map fun t =>
    -- all that is read from counts, so that gaps in the plan do not break the order
    let ancestors := if t.kind == .main then g.ancestors t.asset.text else []
    ⟨t, placesWhere ids (mustWait ancestors t)⟩

/-- The assets that are to be run: all that were chosen, or what a previous run left of them. -/
def rerun (g : AssetGraph) (fingerprint : String) (chosen : List AssetName) :
    Option RunState → Except RunError (List AssetName)
  | none => .ok chosen
  | some s =>
    if s.isCompatible fingerprint then .ok (toRerun g chosen s)
    else .error (.incompatibleState fingerprint s.fingerprint)

/-- Why an asset is not to be run, if it is not. -/
def skipReason (chosen rerun : List AssetName) (n : AssetName) : Option SkipReason :=
  if !chosen.contains n then some .filtered
  else if !rerun.contains n then some .previouslySucceeded
  else none

/-- The assets that are not to be run, in the order of their names. -/
def leftOut (order chosen rerun : List AssetName) : List (AssetName × SkipReason) :=
  (order.filterMap fun n => (skipReason chosen rerun n).map (n, ·)).mergeSort
    fun a b => decide (a.1.text ≤ b.1.text)

/-- The tasks of the assets that are to be run, producers first. -/
def taskIds (p : Pipeline) (kinds : List TaskKind) (order rerun : List AssetName) : List TaskId :=
  ((order.filter rerun.contains).filterMap fun n => p.asset? n.text).flatMap (tasksOf kinds)

/-- The plan of a run, which continues a previous one if there is one. -/
def build (p : Pipeline) (c : RunConfig) (previous : Option RunState) :
    Except RunError RunPlan := do
  let g ← (p.graph).mapError .core
  let order ← (g.order.mapError fun names => .core (.cycle names))
  let chosen ← selected p g c
  let rerun ← rerun g p.fingerprint chosen previous
  return ⟨withWaits g (taskIds p c.kinds order rerun), leftOut order chosen rerun, p.fingerprint⟩

/-- The assets with tasks, each once, in the order of the tasks. -/
def scheduled (plan : RunPlan) : List AssetName :=
  (plan.tasks.map (·.id.asset)).eraseDups

/-- Why an asset is left out, if it is. -/
def reason? (plan : RunPlan) (name : String) : Option SkipReason :=
  (plan.skipped.find? (·.1.text == name)).map (·.2)

end RunPlan

end AssetFlow
