import AssetFlow.Run.Execution

/-!
# Runs and the files that they leave

A run keeps its state in a file of its own. Whenever the recorder saves a state, the run goes on
once the file holds it. The process may be killed at any moment, also while a state is being saved,
and what is then in the file system is all that is left of the run.

## Main definitions

- `RunState.Interrupted`: the file system if the saving of a state is broken off
- `Process`: a run with the file system that it works in
- `Process.Step`, `Process.Run`: how it goes on
- `Process.MayLeave`: the file system if the process is killed
- `Process.kept?`: the state that is in the file of the run
-/

namespace AssetFlow

namespace RunState

/-- A change of the file system that has been begun, and may be complete. A file is moved at once,
but folders are made one after another, and a text may have been written in part. -/
inductive SaveStep.Begun (t : Tree) : SaveStep → Tree → Prop
  | makeFolders {path : String} {n : Nat} {t' : Tree} :
    (List.range n).foldlM (fun t i => t.makeFolderAt ((Tree.place path).take (i + 1))) t = some t' →
      Begun t (.makeFolders path) t'
  | write {path text : String} {bytes : ByteArray} {t' : Tree} :
    t.write path bytes = some t' → Begun t (.write path text) t'
  | rename {source target : String} : Begun t (.rename source target) t

/-- What the saving of a state makes of the file system if it is broken off: some of the changes are
made, and the next one may have been begun. -/
inductive Interrupted (s : RunState) (path : String) (t : Tree) : Tree → Prop
  | between {earlier later : List SaveStep} {t' : Tree} :
    s.saveSteps path = earlier ++ later → later ≠ [] →
      earlier.foldlM SaveStep.apply t = some t' → Interrupted s path t t'
  | within {earlier later : List SaveStep} {step : SaveStep} {t' t'' : Tree} :
    s.saveSteps path = earlier ++ step :: later →
      earlier.foldlM SaveStep.apply t = some t' → step.Begun t' t'' → Interrupted s path t t''

end RunState

/-- How far a run is. -/
inductive Stage
  | waiting
  /-- There is no run. -/
  | refused (e : RunError)
  /-- The plan is being carried out. -/
  | going (plan : RunPlan) (x : Execution)
  deriving Repr

/-- A run with the file system that it works in. -/
structure Process where
  files : Tree
  stage : Stage := .waiting
  /-- The states that are still to be written to the file of the run, oldest first. -/
  pending : List RunState := []

namespace Process

/-- What can happen next to a run of a pipeline. Saving a state succeeds. Others may change the file
system as well, but not the file of the run. -/
inductive Step (p : Pipeline) (c : RunConfig) (store : Store) (startedAt : Moment) :
    Process → Option Happening → Process → Prop
  | refuse {t : Tree} {e : RunError} :
    Run.prepare p c store t = .error e →
      Step p c store startedAt { files := t } none { files := t, stage := .refused e }
  | plan {t : Tree} {plan : RunPlan} {r : Recorder} :
    Run.prepare p c store t = .ok (plan, r) →
      Step p c store startedAt { files := t } none
        { files := t, stage := .going plan (.begin p plan r), pending := r.saved.reverse }
  | save {t t' : Tree} {plan : RunPlan} {x : Execution} {s : RunState} {later : List RunState} :
    s.save t (store.runPath startedAt) = .ok t' →
      Step p c store startedAt { files := t, stage := .going plan x, pending := s :: later } none
        { files := t', stage := .going plan x, pending := later }
  | happen {t : Tree} {plan : RunPlan} {x y : Execution} {h : Happening} {new : List RunState} :
    Execution.Step plan c.workers x h y → y.recorder.saved = new ++ x.recorder.saved →
      Step p c store startedAt { files := t, stage := .going plan x } (some h)
        { files := t, stage := .going plan y, pending := new.reverse }
  | elsewhere {t t' : Tree} {plan : RunPlan} {x : Execution} {pending : List RunState} :
    t'.bytes? (store.runPath startedAt) = t.bytes? (store.runPath startedAt) →
      Step p c store startedAt { files := t, stage := .going plan x, pending } none
        { files := t', stage := .going plan x, pending }

/-- What a row of happenings, the latest first, comes to. -/
inductive Run (p : Pipeline) (c : RunConfig) (store : Store) (startedAt : Moment) (t : Tree) :
    List Happening → Process → Prop
  | nil : Run p c store startedAt t [] { files := t }
  | next {hs : List Happening} {P Q : Process} {h : Option Happening} :
    Run p c store startedAt t hs P → Step p c store startedAt P h Q →
      Run p c store startedAt t (h.toList ++ hs) Q

/-- The file system may look like this if the process is killed. -/
def MayLeave (P : Process) (path : String) (t : Tree) : Prop :=
  t = P.files ∨ ∃ s later, P.pending = s :: later ∧ s.Interrupted path P.files t

/-- The state that the file of the run holds, once there is one. -/
def kept? (P : Process) : Option RunState :=
  match P.stage with
  | .going _ x => x.recorder.saved[P.pending.length]?
  | _ => none

/-- What has happened and has been recorded with all its consequences. -/
def recorded (P : Process) (hs : List Happening) : List Happening :=
  if P.pending.isEmpty then hs else hs.tail

end Process

end AssetFlow
