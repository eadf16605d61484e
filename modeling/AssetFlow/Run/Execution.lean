import AssetFlow.Run.Runner

/-!
# Runs as rows of happenings

All ways in which a plan can be carried out. The scheduler hands over tasks as long as there are
tasks that may start, free workers and no wish to cancel; then it waits for a running task to end.
Which one ends next, how it ends and when the run is cancelled is up to the world, so that a run is
a row of happenings that `Execution.Step` allows one after another.

## Main definitions

- `Happening`: something that happens in a run
- `Execution`: a run in progress
- `Execution.Step`: what can happen next, and what comes of it
- `Execution.Run`: what a row of happenings comes to
- `handedOver`, `inFlight`: the tasks that were handed over, and those that have not ended
-/

namespace AssetFlow

/-- Something that happens in a run; tasks are given by their places in the plan. -/
inductive Happening
  /-- The run is asked to stop. -/
  | cancelled
  /-- A task is handed over to be carried out. -/
  | started (task : Nat)
  /-- A task fails because its asset is not in the pipeline. -/
  | refused (task : Nat)
  /-- A task that was handed over ends; one that breaks down is `Outcome.aborted`. -/
  | ended (task : Nat) (outcome : Outcome)
  /-- No task is running or may start any more, and the run is summed up. -/
  | concluded
  deriving DecidableEq, Repr

/-- The tasks that were handed over; the row of happenings has the latest first. -/
def handedOver : List Happening → List Nat
  | [] => []
  | .started i :: earlier => i :: handedOver earlier
  | _ :: earlier => handedOver earlier

/-- The tasks that were handed over and have not ended; the row of happenings has the latest
first. -/
def inFlight : List Happening → List Nat
  | [] => []
  | .started i :: earlier => i :: inFlight earlier
  | .ended i _ :: earlier => (inFlight earlier).erase i
  | _ :: earlier => inFlight earlier

/-- A run in progress. -/
structure Execution where
  schedule : Schedule
  cancelled : Bool := false
  /-- What the run amounts to, once it is over. -/
  summary : Option RunSummary := none
  deriving DecidableEq, Repr

namespace Execution

/-- A run of a plan on a pipeline before anything happens. -/
def begin (p : Pipeline) (plan : RunPlan) (recorder : Recorder) : Execution :=
  { schedule := .begin p.names plan.tasks recorder }

/-- The record of the run. -/
def recorder (x : Execution) : Recorder :=
  x.schedule.progress.recorder

/-- Whether the scheduler takes another task: one may start, a worker is free and nobody has asked
the run to stop. -/
def takesTask (workers : Nat) (x : Execution) : Bool :=
  decide (x.schedule.running.length < max workers 1) && !x.cancelled && !x.schedule.ready.isEmpty

/-- The run with another schedule. -/
def withSchedule (x : Execution) (s : Schedule) : Execution :=
  { x with schedule := s }

/-- The run when it is over. -/
def conclude (plan : RunPlan) (x : Execution) : Execution :=
  let (summary, recorder) := x.schedule.progress.summary plan x.cancelled
  { x with
    schedule := { x.schedule with progress := { x.schedule.progress with recorder } }
    summary := some summary }

/-- What can happen next in a run, and what comes of it. -/
inductive Step (plan : RunPlan) (workers : Nat) : Execution → Happening → Execution → Prop
  | cancel {x : Execution} :
    x.summary = none → Step plan workers x .cancelled { x with cancelled := true }
  | start {x : Execution} {i : Nat} {s : Schedule} :
    x.summary = none → x.takesTask workers = true → x.schedule.start? = some (.handed i, s) →
      Step plan workers x (.started i) (x.withSchedule s)
  | refuse {x : Execution} {i : Nat} {s : Schedule} :
    x.summary = none → x.takesTask workers = true → x.schedule.start? = some (.refused i, s) →
      Step plan workers x (.refused i) (x.withSchedule s)
  | finish {x : Execution} {i : Nat} {outcome : Outcome} :
    x.summary = none → x.takesTask workers = false → i ∈ x.schedule.running →
      Step plan workers x (.ended i outcome) (x.withSchedule (x.schedule.finish i outcome))
  | conclude {x : Execution} :
    x.summary = none → x.takesTask workers = false → x.schedule.running = [] →
      Step plan workers x .concluded (x.conclude plan)

/-- What a row of happenings, the latest first, comes to. -/
inductive Run (plan : RunPlan) (workers : Nat) (x₀ : Execution) : List Happening → Execution → Prop
  | nil : Run plan workers x₀ [] x₀
  | next {hs : List Happening} {x y : Execution} {h : Happening} :
    Run plan workers x₀ hs x → Step plan workers x h y → Run plan workers x₀ (h :: hs) y

end Execution

end AssetFlow
