import AssetFlow.Lineage.Merge
import AssetFlow.Run.Plan

/-!
# Why commands fail

## Main definitions

- `CommandError`: why a command could not do its work.
- `CommandError.account`: what the user is told, from what was tried to what caused it to fail.
-/

namespace AssetFlow.CommandLine

/-- Why a command could not do its work. -/
inductive CommandError
  | pipelineFault (path : String) (cause : CoreError)
  /-- A date that was given in some place cannot be read. -/
  | dateFault (place : String) (cause : CoreError)
  | configFault (cause : CoreError)
  | runFault (cause : RunError)
  | assetNotFound (name : String)
  | lineageFault (cause : LineageError)
  deriving DecidableEq, Repr

/-- What the user is told, where `fault` stands for the wording of a fault found in a file. -/
def CommandError.account (fault : CoreError → String) : CommandError → String
  | .pipelineFault path cause =>
    s!"Failed to load pipeline at {path}: " ++ cause.account fault
  | .dateFault place cause => s!"Invalid {place}: " ++ cause.account fault
  | .configFault cause => cause.account fault
  | .runFault cause => "Run failed: " ++ cause.account fault
  | .assetNotFound name => s!"Asset not found: {name}"
  | .lineageFault cause => "Failed to resolve column lineage: " ++ cause.message "it is not SQL"

end AssetFlow.CommandLine
