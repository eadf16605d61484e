import AssetFlow.Run.Plan
import AssetFlow.Run.Recorder

/-!
# Scheduling the tasks of a run

A run is a row of moves: a task is started, or a running task ends. A task may start once all tasks
that it waits for have succeeded; if one of them fails, it fails without being started. Which
running task ends next, and how, is up to the world; so is when the run is cancelled, after which no
task starts any more.

## Main definitions

- `Outcome`, `Outcome.aborted`: how a task ends.
- `Dispatch`: what becomes of a task that may start.
- `Schedule`: the state between two moves.
- `Schedule.start?`, `Schedule.finish`: the moves.
- `Schedule.summary`: what a run amounts to in the end.
-/

namespace AssetFlow

/-- How a task ends. -/
inductive Outcome
  | succeeded
  | failed (message : String)
  deriving DecidableEq, Repr, Inhabited

namespace Outcome

/-- Whether a task ends well. -/
def isSuccess : Outcome → Bool
  | succeeded => true
  | failed _ => false

/-- The end of a task that breaks down. It is set apart from the others, so that all that comes of
it is a failure with the report of what happened. -/
def aborted (report : String) : Outcome :=
  .failed ("task aborted: " ++ report)

end Outcome

/-- The outcomes of tasks so far, with what they mean for their assets. -/
structure Progress where
  tasks : List PlannedTask
  /-- The outcome of each task, if it has one. -/
  outcomes : List (Option Outcome)
  /-- The number of tasks of each asset without an outcome. -/
  remaining : List (AssetName × Nat)
  /-- The first message of each asset with a failed task. -/
  errors : List (AssetName × String)
  recorder : Recorder
  deriving DecidableEq, Repr

namespace Progress

/-- The progress of a run that has not begun. -/
def begin (tasks : List PlannedTask) (recorder : Recorder) : Progress :=
  let assets := tasks.map (·.id.asset)
  { tasks
    outcomes := tasks.map fun _ => none
    remaining := assets.eraseDups.map fun a => (a, assets.count a)
    errors := []
    recorder }

/-- The asset that a task works on. -/
def asset? (p : Progress) (i : Nat) : Option AssetName :=
  (p.tasks[i]?).map (·.id.asset)

/-- The outcome of a task, if it has one. -/
def outcome? (p : Progress) (i : Nat) : Option Outcome :=
  (p.outcomes[i]?).getD none

/-- Whether a task has an outcome. -/
def isFinished (p : Progress) (i : Nat) : Bool :=
  (p.outcome? i).isSome

/-- Whether a task has no outcome. -/
def hasUnfinished (p : Progress) : Bool :=
  p.outcomes.any Option.isNone

/-- The number of tasks of an asset without an outcome. -/
def remainingOf (p : Progress) (a : AssetName) : Nat :=
  (p.remaining.lookup a).getD 0

/-- The first message of an asset with a failed task. -/
def error? (p : Progress) (a : AssetName) : Option String :=
  p.errors.lookup a

/-- Notes that a task has started. -/
def start (p : Progress) (i : Nat) : Progress :=
  match p.asset? i with
  | none => p
  | some a => { p with recorder := p.recorder.record a.text .running }

/-- Notes the outcome of a task. With its last task, an asset is done with. -/
def finish (p : Progress) (i : Nat) (outcome : Outcome) : Progress :=
  match p.asset? i with
  | none => p
  | some a =>
    let errors := match outcome with
      -- the first failure of an asset is the one that is reported
      | .failed message => if (p.error? a).isSome then p.errors else p.errors ++ [(a, message)]
      | .succeeded => p.errors
    let left := p.remainingOf a - 1
    let p := { p with
      outcomes := p.outcomes.set i (some outcome)
      remaining := p.remaining.map fun (b, n) => if b == a then (b, n - 1) else (b, n)
      errors := errors }
    if left == 0 then
      -- an asset has its final status once the last of its tasks is done with
      let status := if (p.error? a).isSome then AssetStatus.failed else .succeeded
      { p with recorder := p.recorder.record a.text status }
    else p

end Progress

/-- What becomes of a task that may start. -/
inductive Dispatch
  /-- It is handed over to be carried out. -/
  | handed (task : Nat)
  /-- It fails at once, because its asset is not in the pipeline. -/
  | refused (task : Nat)
  deriving DecidableEq, Repr

/-- The state of a run between two moves. -/
structure Schedule where
  progress : Progress
  /-- The assets of the pipeline. -/
  known : List AssetName
  /-- The number of tasks that each task still waits for. -/
  waiting : List Nat
  /-- The tasks that may start, in the order in which they will. -/
  ready : List Nat
  running : List Nat
  deriving DecidableEq, Repr

namespace Schedule

/-- The state of a run that has not begun. -/
def begin (known : List AssetName) (tasks : List PlannedTask) (recorder : Recorder) : Schedule :=
  let waiting := tasks.map (·.waitsFor.length)
  { progress := .begin tasks recorder
    known
    waiting
    ready := (List.range tasks.length).filter fun i => waiting[i]? == some 0
    running := [] }

/-- The tasks that wait for a task. -/
def dependents (s : Schedule) (i : Nat) : List Nat :=
  (s.progress.tasks.zipIdx.filter fun (t, _) => t.waitsFor.contains i).map (·.2)

/-- The asset of a task, if it is not in the pipeline. -/
def missing? (s : Schedule) (i : Nat) : Option AssetName :=
  (s.progress.asset? i).filter fun a => !s.known.contains a

/-- Takes the next task that may start. -/
def start? (s : Schedule) : Option (Dispatch × Schedule) :=
  match s.ready with
  | [] => none
  | i :: rest =>
    match s.missing? i with
    | some a =>
      some (.refused i, { s with
        ready := rest
        progress := s.progress.finish i (.failed s!"asset '{a.text}' is not in the pipeline") })
    | none =>
      some (.handed i, { s with
        ready := rest
        running := s.running ++ [i]
        progress := s.progress.start i })

/-- Starts tasks while there are free workers; there are at most `fuel` tasks that may start. -/
def fill (workers : Nat) : (fuel : Nat) → Schedule → List Nat × Schedule
  | 0, s => ([], s)
  | fuel + 1, s =>
    if s.running.length < workers then
      match s.start? with
      | none => ([], s)
      | some (.refused _, s) => fill workers fuel s
      | some (.handed i, s) =>
        let (more, s) := fill workers fuel s
        (i :: more, s)
    else ([], s)

/-- A task needs to wait for one task less; it becomes ready if that was the last one. -/
def release (s : Schedule) (i : Nat) : Schedule :=
  let left := (s.waiting[i]?).getD 0 - 1
  { s with
    waiting := s.waiting.set i left
    ready := if left == 0 && !s.progress.isFinished i then s.ready ++ [i] else s.ready }

/-- Fails the tasks on a stack and all that wait for them, the top of the stack first. -/
def failAll (s : Schedule) (reason : String) : (fuel : Nat) → List Nat → Schedule
  | 0, _ => s
  | _ + 1, [] => s
  | fuel + 1, i :: stack =>
    -- a task may be on the stack twice, by way of two tasks that it waits for
    if s.progress.isFinished i then failAll s reason fuel stack
    else
      -- the latest of the tasks that wait comes next
      failAll { s with progress := s.progress.finish i (.failed reason) } reason fuel
        ((s.dependents i).reverse ++ stack)

/-- The number of pairs of a task and a task that it waits for. -/
def waitCount (s : Schedule) : Nat :=
  (s.progress.tasks.flatMap (·.waitsFor)).length

/-- A running task ends. -/
def finish (s : Schedule) (i : Nat) (outcome : Outcome) : Schedule :=
  let s := { s with
    running := s.running.filter (· != i)
    progress := s.progress.finish i outcome }
  match outcome, s.progress.asset? i with
  | .succeeded, _ => (s.dependents i).foldl release s
  | .failed _, some a =>
    s.failAll s!"upstream '{a.text}' failed" (2 * s.waitCount + 1) (s.dependents i).reverse
  | .failed _, none => s

end Schedule

/-- What a run amounts to; assets are listed in the order of their tasks. -/
structure RunSummary where
  succeeded : List String := []
  failed : List (String × String) := []
  skipped : List (String × SkipReason) := []
  /-- The assets that a cancelled run did not come to. -/
  pending : List String := []
  cancelled : Bool := false
  deriving DecidableEq, Repr, Inhabited

namespace RunSummary

/-- Whether an asset failed. -/
def hasFailures (s : RunSummary) : Bool :=
  !s.failed.isEmpty

/-- Whether everything that was to be done was done. -/
def isSuccess (s : RunSummary) : Bool :=
  !s.hasFailures && !s.cancelled

/-- The assets that are left out for a reason. -/
def skippedFor (s : RunSummary) (reason : SkipReason) : List String :=
  (s.skipped.filter (·.2 == reason)).map (·.1)

end RunSummary

namespace Progress

/-- Adds one asset to a summary and notes its last status if it is not done with. -/
def conclude (p : Progress) (acc : RunSummary × Recorder) (a : AssetName) :
    RunSummary × Recorder :=
  let (summary, recorder) := acc
  let unfinished := p.remainingOf a > 0
  match p.error? a with
  | some e =>
    ({ summary with failed := summary.failed ++ [(a.text, e)] },
      -- tasks that a cancelled run did not come to do not hide a failure
      if unfinished then recorder.record a.text .failed else recorder)
  | none =>
    if unfinished then
      ({ summary with pending := summary.pending ++ [a.text] }, recorder.record a.text .pending)
    else ({ summary with succeeded := summary.succeeded ++ [a.text] }, recorder)

/-- What a run amounts to, with the state that it leaves. -/
def summary (p : Progress) (plan : RunPlan) (cancelled : Bool) : RunSummary × Recorder :=
  let (summary, recorder) := plan.scheduled.foldl p.conclude ({}, p.recorder)
  ({ summary with
      skipped := plan.skipped.map fun (n, r) => (n.text, r)
      cancelled := cancelled && p.hasUnfinished },
    recorder.persist)

end Progress

end AssetFlow
