import AssetFlow.Run.Scheduler

/-!
# Runs on a virtual clock

A run whose tasks take known times and end in known ways. Of several tasks that end at one time the
one that started first ends first.

## Main definitions

- `Behaviour`: what a task does.
- `Simulation.run`: runs a schedule to its end and lists what happened.
-/

namespace AssetFlow

/-- What a task does once it is started. -/
structure Behaviour where
  /-- How long it takes. -/
  duration : Nat := 0
  outcome : Outcome := .succeeded
  /-- Whether the run is cancelled when the task starts. -/
  cancelsAtStart : Bool := false
  /-- Whether the run is cancelled when the task ends. -/
  cancelsAtEnd : Bool := false
  deriving DecidableEq, Repr, Inhabited

/-- Something that happens in a run, with the time. -/
inductive RunEvent
  /-- A task starts; the state is the one that was saved last. -/
  | started (task : TaskId) (time : Nat) (saved : Option RunState)
  | ended (task : TaskId) (time : Nat)
  deriving DecidableEq, Repr

/-- A run in progress. -/
structure Simulation where
  schedule : Schedule
  time : Nat := 0
  cancelled : Bool := false
  /-- The running tasks and when they end, in the order in which they started. -/
  active : List (Nat × Nat) := []
  /-- What happened, latest first. -/
  events : List RunEvent := []
  deriving Repr

namespace Simulation

/-- The running task that ends next. -/
def nextEnd : List (Nat × Nat) → Option (Nat × Nat)
  | [] => none
  | a :: rest => match nextEnd rest with
    | some b => if b.2 < a.2 then some b else some a
    | none => some a

/-- The behaviour of a task by place. -/
def behaviourOf (behave : TaskId → Behaviour) (s : Simulation) (i : Nat) : Behaviour :=
  match s.schedule.progress.tasks[i]? with
  | some t => behave t.id
  | none => {}

/-- The events of a task by place. -/
def note (s : Simulation) (i : Nat) (event : TaskId → RunEvent) : Simulation :=
  match s.schedule.progress.tasks[i]? with
  | some t => { s with events := event t.id :: s.events }
  | none => s

/-- A task starts. -/
def started (behave : TaskId → Behaviour) (s : Simulation) (i : Nat) : Simulation :=
  let b := s.behaviourOf behave i
  let s := s.note i (.started · s.time s.schedule.progress.recorder.saved.head?)
  { s with
    active := s.active ++ [(i, s.time + b.duration)]
    cancelled := s.cancelled || b.cancelsAtStart }

/-- Starts all tasks that may start. -/
def fill (workers : Nat) (behave : TaskId → Behaviour) (s : Simulation) : Simulation :=
  if s.cancelled then s
  else
    let (places, schedule) := s.schedule.fill workers s.schedule.ready.length
    places.foldl (started behave) { s with schedule }

/-- The task that ends next ends. -/
def step (behave : TaskId → Behaviour) (s : Simulation) : Option Simulation := do
  let (i, time) ← nextEnd s.active
  let b := s.behaviourOf behave i
  let s := note { s with time } i (.ended · time)
  return { s with
    active := s.active.filter (·.1 != i)
    cancelled := s.cancelled || b.cancelsAtEnd
    schedule := s.schedule.finish i b.outcome }

/-- Runs until no task is running. -/
def loop (workers : Nat) (behave : TaskId → Behaviour) : (fuel : Nat) → Simulation → Simulation
  | 0, s => s
  | fuel + 1, s =>
    let s := s.fill workers behave
    match s.step behave with
    | some s => loop workers behave fuel s
    | none => s

/-- Runs a plan to its end on a pipeline with some assets. -/
def runOn (known : List AssetName) (plan : RunPlan) (recorder : Recorder) (workers : Nat)
    (cancelled : Bool) (behave : TaskId → Behaviour) : Simulation :=
  loop (max workers 1) behave (plan.tasks.length + 1)
    { schedule := .begin known plan.tasks recorder, cancelled }

/-- Runs a plan to its end on a pipeline that has all assets of the plan. -/
def run (plan : RunPlan) (recorder : Recorder) (workers : Nat) (cancelled : Bool)
    (behave : TaskId → Behaviour) : Simulation :=
  runOn plan.scheduled plan recorder workers cancelled behave

end Simulation

end AssetFlow
