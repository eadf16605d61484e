import AssetFlow.CommandLine.Configure
import AssetFlow.CommandLine.Report
import AssetFlow.Lineage.Infer
import AssetFlow.Lineage.Resolve
import AssetFlow.Pipeline.Load
import AssetFlow.Run.Runner
import AssetFlow.Run.Simulation
import AssetFlow.Run.Task

/-!
# Carrying out commands

A command finds a tree of files and a host, and leaves a tree of files, actions on the outside
world, and what it tells the user. Tasks that run at once still come one after another to the
database, so a run is shown as if they took no time.

## Main definitions

- `Surroundings`: what a command finds.
- `CommandResult`: what a command leaves.
- `Invocation.carryOut`: carries out a command.
-/

namespace AssetFlow.CommandLine

/-- What a command finds. -/
structure Surroundings where
  /-- The folder that paths are relative to. -/
  here : String
  now : Moment
  files : Tree
  host : Host

/-- What a command leaves. -/
structure CommandResult where
  files : Tree
  /-- What the user is shown. -/
  shown : String := ""
  /-- The lines that the user is told besides. -/
  details : List String := []
  actions : List Action := []
  /-- The exit code, unless the command could not do its work. -/
  result : Except CommandError Nat

/-- The exit code of a run with failed assets. -/
def failedCode : Nat := 1

/-- The exit code of a run that was interrupted before all assets were done. -/
def cancelledCode : Nat := 130

/-- What the user is told only if all is to be told. -/
def tell (verbose : Bool) (s : String) : List String :=
  if verbose then [detailLine s] else []

/-! ### Runs -/

/-- The exit code of a run. -/
def exitCode (s : RunSummary) : Nat :=
  if s.hasFailures then failedCode else if s.cancelled then cancelledCode else 0

/-- The tree after states were saved, the oldest first. A state that cannot be saved changes
nothing. -/
def saveAll (t : Tree) (path : String) (states : List RunState) : Tree :=
  states.foldl (fun t s => (s.save t path).toOption.getD t) t

/-- The work of all tasks of a plan. -/
def works (w : Workplace) (p : Pipeline) (plan : RunPlan) : List (TaskId × Work TaskError Unit) :=
  plan.tasks.filterMap fun t =>
    (p.asset? t.id.asset.text).map fun a => (t.id, w.carryOut a t.id.kind)

/-- What a task does whose work is known. -/
def behaviourOf (engine : Engine) (w : Work TaskError Unit) : Behaviour :=
  { outcome := match w.result with
      | .ok () => .succeeded
      | .error e => .failed e.message
    cancelsAtEnd := w.actions.any fun a => a.sql?.any fun r => engine.interrupts r.sql }

/-- The tasks that ended, in their order. -/
def endedTasks (events : List RunEvent) : List TaskId :=
  events.reverse.filterMap fun
    | .ended t _ => some t
    | .started .. => none

/-- Runs the tasks of a plan. -/
def runPlan (s : Surroundings) (p : Pipeline) (config : RunConfig) (verbose : Bool)
    (plan : RunPlan) (recorder : Recorder) : CommandResult :=
  let store := Store.ofPipeline p.root p.config.name
  let statePath := store.runPath s.now
  let all := works ⟨s.host, p.databasePath, config⟩ p plan
  let behave (t : TaskId) : Behaviour :=
    ((all.lookup t).map (behaviourOf s.host.engine)).getD {}
  let done := Simulation.runOn p.names plan recorder config.workers false behave
  let ended := (endedTasks done.events).filterMap fun t => (all.lookup t).map fun w => (t, w)
  let lines := ended.map fun (t, w) => taskLine t (match w.result with
    | .ok () => none
    | .error e => some e.message) 0
  let (summary, recorder) := done.schedule.progress.summary plan done.cancelled
  let report := runReport summary 0
  let files := saveAll s.files statePath recorder.saved.reverse
  let logPath := Path.withExtension statePath "log"
  { files := if config.noLogFile then files else (files.write logPath report.toUTF8).getD files
    shown := runHeading p.config.name p.assets.length ++ String.join lines ++ report
    details := tell verbose s!"Run state: {statePath}"
    actions := ended.flatMap fun (_, w) => w.actions
    result := .ok (exitCode summary) }

/-- Runs a pipeline. -/
def runPipeline (s : Surroundings) (o : RunOptions) (verbose : Bool) (p : Pipeline) :
    CommandResult :=
  let (p, inferred) := p.inferUpstreams
  let told := tell verbose s!"Inferred {inferred} upstream reference(s) from SQL"
  match o.configure s.now p.config with
  | .error e => { files := s.files, details := told, result := .error e }
  | .ok config =>
    let told := told ++ tell verbose s!"Database: {p.databasePath}"
    match Run.prepare p config (Store.ofPipeline p.root p.config.name) s.files with
    | .error e =>
      { files := s.files
        shown := runHeading p.config.name p.assets.length
        details := told
        result := .error (.runFault e) }
    | .ok (plan, recorder) =>
      let done := runPlan s p config verbose plan recorder
      { done with details := told ++ done.details }

/-! ### Lineage -/

/-- A pipeline with its templates rendered. A template that cannot be rendered stays as it is. -/
def renderAll (config : RunConfig) (p : Pipeline) : Pipeline :=
  p.mapAssets fun a =>
    if a.isScript then a else { a with sql := (config.renderSql a.sql).toOption.getD a.sql }

/-- Shows the lineage of the columns of a pipeline. -/
def showLineage (s : Surroundings) (o : LineageOptions) (verbose : Bool) (p : Pipeline) :
    CommandResult :=
  match o.assets.find? fun n => (p.asset? n).isNone with
  | some n => { files := s.files, result := .error (.assetNotFound n) }
  | none =>
    let (p, inferred) := (renderAll (yesterday s.now) p).inferUpstreams
    let told := tell verbose s!"Inferred {inferred} upstream reference(s) from SQL"
    let (resolved, p) := ((({} : Resolver).addColumns p).resolveAll p)
    match resolved with
    | .error e => { files := s.files, details := told, result := .error (.lineageFault e) }
    | .ok () =>
      let wanted := p.assets.filter fun a => o.assets.isEmpty || o.assets.contains a.name.text
      { files := s.files
        shown := match o.format with
          | .table => lineageTable wanted
          | .json => lineageDocument wanted
        details := told
        result := .ok 0 }

/-! ### Commands -/

/-- Carries out a command on the pipeline in a folder. -/
def withPipeline (s : Surroundings) (path : String) (f : Pipeline → CommandResult) :
    CommandResult :=
  match Pipeline.load s.files s.here path with
  | .error e => { files := s.files, result := .error (.pipelineFault path e) }
  | .ok p => f p

/-- Carries out a command. -/
def Invocation.carryOut (i : Invocation) (s : Surroundings) : CommandResult :=
  match i.command with
  | .run o => withPipeline s o.path (runPipeline s o i.verbose)
  | .lineage o => withPipeline s o.path (showLineage s o i.verbose)

end AssetFlow.CommandLine
