import AssetFlow.Run.Scheduler
import AssetFlow.Run.Store

/-!
# Runs from beginning to end

## Main definitions

- `Run.previous`: the state of the run to continue, if one is to be continued.
- `Run.prepare`: the plan of a run and the state that it begins with.
-/

namespace AssetFlow.Run

/-- The state of the run that a configuration asks to continue. -/
def previous (store : Store) (t : Tree) (c : RunConfig) : Except RunError (Option RunState) :=
  if c.continueRun then
    match store.loadLatest t with
    | .error e => .error (.core e)
    | .ok none => .error (.noPreviousState store.folder)
    | .ok (some s) => .ok (some s)
  else .ok none

/-- The state that a run begins with: nothing has happened but that assets are left out. -/
def initialState (p : Pipeline) (c : RunConfig) (plan : RunPlan) : RunState :=
  plan.skipped.foldl (fun s (n, reason) => s.skip n.text reason)
    (RunState.start c plan.fingerprint (p.names.map AssetName.text))

/-- The recorder that a run begins with; the first thing that is saved is the state as it is. -/
def initialRecorder (p : Pipeline) (c : RunConfig) (plan : RunPlan) : Recorder :=
  Recorder.persist { state := initialState p c plan }

/-- The plan of a run and the state that it begins with. -/
def prepare (p : Pipeline) (c : RunConfig) (store : Store) (t : Tree) :
    Except RunError (RunPlan × Recorder) := do
  c.validate.mapError .core
  let plan ← RunPlan.build p c (← previous store t c)
  return (plan, initialRecorder p c plan)

end AssetFlow.Run
