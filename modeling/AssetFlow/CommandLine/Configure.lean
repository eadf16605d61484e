import AssetFlow.CommandLine.Command
import AssetFlow.CommandLine.Error

/-!
# From options to the configuration of a run

## Main definitions

- `yesterday`: the configuration of a run over the data of yesterday, which is the usual one.
- `RunOptions.configure`: the configuration that options and a pipeline ask for.
-/

namespace AssetFlow.CommandLine

/-- The configuration of a run over the data of the day before a moment. -/
def yesterday (now : Moment) : RunConfig :=
  let day := now.dayBefore?.getD now
  { startDate := day.startOfDay, endDate := day.endOfDay }

namespace RunOptions

/-- Where the data begins. A full refresh goes back to where the data of the pipeline begins. -/
def configureStart (o : RunOptions) (p : PipelineConfig) (usual : Moment) :
    Except CommandError Moment :=
  match o.startDate, p.startDate with
  | some s, _ => (readStart s).mapError (.dateFault "--start-date")
  | none, some s =>
    if o.fullRefresh then (readStart s).mapError (.dateFault "start_date in pipeline.yml")
    else .ok usual
  | none, none => .ok usual

/-- The configuration that options and a pipeline ask for. -/
def configure (now : Moment) (o : RunOptions) (p : PipelineConfig) :
    Except CommandError RunConfig := do
  let usual := yesterday now
  let startDate ← o.configureStart p usual.startDate
  let endDate ← match o.endDate with
    | some s => (readEnd s).mapError (.dateFault "--end-date")
    | none => pure usual.endDate
  let config := { usual with
    downstream := o.downstream
    startDate
    endDate
    workers := (o.workers.or p.defaultParallelism).getD usual.workers
    environment := o.environment
    force := o.force
    pushMetadata := o.pushMetadata
    noLogFile := o.noLogFile
    fullRefresh := o.fullRefresh
    packageManager := if o.usePip then .pip else .uv
    tag := o.tag
    excludeTag := o.excludeTag
    only := o.only
    continueRun := o.continueRun
    targets := o.assets }
  config.validate.mapError .configFault
  return config

end RunOptions

end AssetFlow.CommandLine
