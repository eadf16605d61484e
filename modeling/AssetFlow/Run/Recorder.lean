import AssetFlow.Run.State

/-!
# Recording the state of a run

The state of a run is saved whenever an asset is done with, so that little is lost if the run is
interrupted.

## Main definitions

- `Recorder`: the state of a run and what was saved of it.
- `Recorder.record`: notes a status and saves the state if need be.
-/

namespace AssetFlow

/-- The state of a run in progress, and the states that were saved, latest first. -/
structure Recorder where
  state : RunState
  saved : List RunState := []
  deriving DecidableEq, Repr

namespace Recorder

/-- Saves the state. -/
def persist (r : Recorder) : Recorder :=
  { r with saved := r.state :: r.saved }

/-- Notes the status of an asset. Nothing happens if the asset has it; else the state is saved if
nothing more happens to the asset. -/
def record (r : Recorder) (name : String) (status : AssetStatus) : Recorder :=
  if r.state.status? name == some status then r
  else
    let r := { r with state := r.state.record name status }
    if status.isTerminal then r.persist else r

end Recorder

end AssetFlow
