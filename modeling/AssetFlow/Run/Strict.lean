import AssetFlow.Run.Execution

/-!
# Strict bookkeeping

The moves of the scheduler with nothing taken for granted. A strict move looks up an entry only
where there is one, lowers a number only if it is not zero, gives an outcome only to a task that has
none and hands a task over only if the pipeline has its asset; at the first slip it stops.

## Main definitions

- `Slip`: what a strict move stops at.
- `RunTables`: what is looked up throughout a run, made before it begins.
- `Progress.finishStrictly`: a task gets its outcome.
- `Schedule.startStrictly`, `Schedule.finishStrictly`: the moves of a scheduler.
- `Execution.beginStrictly`: what a run begins with.

## Design notes

The moves of `Schedule` are defined for every schedule: where there is no entry they go on with a
default, and a number does not fall below zero. The strict moves do the same work but tell these
cases apart, so that a strict move that comes to an end shows that none of them arose on the way.
-/

namespace AssetFlow

/-- What a strict move stops at. -/
inductive Slip
  /-- A row has no entry at a place. -/
  | noEntry (place : Nat)
  /-- A number is to be lowered that is zero. -/
  | belowZero
  /-- A task is to get an outcome, but has one. -/
  | secondOutcome (task : Nat)
  /-- The tasks of an asset are not counted. -/
  | notCounted (asset : AssetName)
  /-- The asset of a task is not in the pipeline. -/
  | missingAsset (asset : AssetName)
  /-- There are tasks left to fail after all turns that should be enough. -/
  | endless
  deriving DecidableEq, Repr

namespace Strict

/-- The entry of a row at a place. -/
def entry {α : Type} (row : List α) (i : Nat) : Except Slip α :=
  match row[i]? with
  | some x => .ok x
  | none => .error (.noEntry i)

/-- A number less one. -/
def lower : Nat → Except Slip Nat
  | 0 => .error .belowZero
  | n + 1 => .ok n

end Strict

open Strict (entry lower)

/-! ### Tables -/

/-- What is looked up throughout a run. -/
structure RunTables where
  /-- For each task, the tasks that wait for it. -/
  dependents : List (List Nat)
  /-- The assets with tasks, as the pipeline has them. -/
  assets : List Asset

namespace RunTables

/-- The pairs of a task and a task that waits for it. -/
def waits (tasks : List PlannedTask) : List (Nat × Nat) :=
  tasks.zipIdx.flatMap fun (t, i) => t.waitsFor.map (·, i)

/-- Notes that a task waits for another one. -/
def addDependent (rows : List (List Nat)) (wait : Nat × Nat) : Except Slip (List (List Nat)) := do
  let row ← entry rows wait.1
  return rows.set wait.1 (row ++ [wait.2])

/-- The tables for a plan on a pipeline. -/
def build (p : Pipeline) (plan : RunPlan) : Except Slip RunTables := do
  let dependents ← (waits plan.tasks).foldlM addDependent (plan.tasks.map fun _ => [])
  return { dependents, assets := plan.scheduled.filterMap fun a => p.asset? a.text }

end RunTables

/-! ### Moves -/

namespace Progress

/-- Notes that a task has started. -/
def startStrictly (p : Progress) (i : Nat) : Except Slip Progress := do
  let t ← entry p.tasks i
  return { p with recorder := p.recorder.record t.id.asset.text .running }

/-- Notes the outcome of a task that has none. -/
def finishStrictly (p : Progress) (i : Nat) (outcome : Outcome) : Except Slip Progress := do
  let t ← entry p.tasks i
  let a := t.id.asset
  match ← entry p.outcomes i with
  | some _ => .error (.secondOutcome i)
  | none =>
    match p.remaining.lookup a with
    | none => .error (.notCounted a)
    | some n =>
      let left ← lower n
      let p := { p with
        outcomes := p.outcomes.set i (some outcome)
        remaining := p.remaining.map fun (b, m) => if b == a then (b, left) else (b, m)
        errors := match outcome with
          | .failed message => if (p.error? a).isSome then p.errors else p.errors ++ [(a, message)]
          | .succeeded => p.errors }
      if left == 0 then
        let status := if (p.error? a).isSome then AssetStatus.failed else .succeeded
        return { p with recorder := p.recorder.record a.text status }
      else return p

end Progress

namespace Schedule

/-- Takes the next task that may start and hands it over. -/
def startStrictly (tables : RunTables) (s : Schedule) :
    Except Slip (Option (Dispatch × Schedule)) :=
  match s.ready with
  | [] => .ok none
  | i :: rest => do
    let t ← entry s.progress.tasks i
    if tables.assets.any (·.name == t.id.asset) then
      let progress ← s.progress.startStrictly i
      return some (.handed i, { s with ready := rest, running := s.running ++ [i], progress })
    else .error (.missingAsset t.id.asset)

/-- A task needs to wait for one task less; it becomes ready if that was the last one. -/
def releaseStrictly (s : Schedule) (i : Nat) : Except Slip Schedule := do
  let n ← entry s.waiting i
  let left ← lower n
  let s := { s with waiting := s.waiting.set i left }
  if left == 0 then
    let outcome ← entry s.progress.outcomes i
    return if outcome.isNone then { s with ready := s.ready ++ [i] } else s
  else return s

/-- Fails the tasks on a stack and all that wait for them, the top of the stack first. -/
def failAllStrictly (tables : RunTables) (s : Schedule) (reason : String) :
    (fuel : Nat) → List Nat → Except Slip Schedule
  | _, [] => .ok s
  | 0, _ :: _ => .error .endless
  | fuel + 1, i :: stack => do
    match ← entry s.progress.outcomes i with
    | some _ => failAllStrictly tables s reason fuel stack
    | none =>
      let progress ← s.progress.finishStrictly i (.failed reason)
      let dependents ← entry tables.dependents i
      failAllStrictly tables { s with progress } reason fuel (dependents.reverse ++ stack)

/-- A running task ends. -/
def finishStrictly (tables : RunTables) (s : Schedule) (i : Nat) (outcome : Outcome) :
    Except Slip Schedule := do
  let t ← entry s.progress.tasks i
  let progress ← s.progress.finishStrictly i outcome
  let dependents ← entry tables.dependents i
  let s := { s with running := s.running.filter (· != i), progress }
  match outcome with
  | .succeeded => dependents.foldlM releaseStrictly s
  | .failed _ =>
    failAllStrictly tables s s!"upstream '{t.id.asset.text}' failed" (2 * s.waitCount + 1)
      dependents.reverse

/-- The tasks of some places that wait for nothing. -/
def readyAmong (waiting : List Nat) (places : List Nat) : Except Slip (List Nat) :=
  places.foldlM (fun ready i => do
    let n ← entry waiting i
    return if n == 0 then ready ++ [i] else ready) []

end Schedule

/-- What a run of a plan on a pipeline begins with, and the tables for it. -/
def Execution.beginStrictly (p : Pipeline) (plan : RunPlan) (recorder : Recorder) :
    Except Slip (RunTables × Execution) := do
  let tables ← RunTables.build p plan
  let waiting := plan.tasks.map (·.waitsFor.length)
  let ready ← Schedule.readyAmong waiting (List.range plan.tasks.length)
  let progress := Progress.begin plan.tasks recorder
  return (tables, { schedule := { progress, known := p.names, waiting, ready, running := [] } })

end AssetFlow
