import AssetFlow.Check.Query

/-!
# Running checks

All checks of an asset are run, in their order, before the asset passes or fails. Checks that are
not blocking have no say in that, but a query that the database refuses ends the row of checks,
blocking or not.

## Main definitions

- `CheckQuery.evaluate`: why a check is not met.
- `runChecks`: the checks of an asset.
-/

namespace AssetFlow

/-- Why an answer is not the expected one, if so. -/
def CheckQuery.reason? (q : CheckQuery) (answer : Int) : Option String :=
  match q.expectation with
  | .noRows => if answer > 0 then some s!"{q.name} returned {answer} failing row(s)" else none
  | .value n => if answer ≠ n then some s!"{q.name} returned {answer}, expected {n}" else none

/-- Asks the database; answers why the check is not met, if so. -/
def CheckQuery.evaluate (w : Warehouse) (q : CheckQuery) : Work WarehouseError (Option String) := do
  let answer : Int ← match q.expectation with
    | .noRows => do
      let n ← w.countRows q.sql
      pure (Int.ofNat n)
    | .value _ => w.scalar q.sql
  return q.reason? answer

/-- Asks the database for all checks; answers why blocking ones are not met. -/
def evaluateAll (w : Warehouse) : List CheckQuery → Work WarehouseError (List String)
  | [] => Work.done []
  | q :: rest => do
    let reason ← q.evaluate w
    let reasons ← evaluateAll w rest
    return match reason with
      | some r => if q.blocking then r :: reasons else reasons
      | none => reasons

/-- Runs the checks of an asset. -/
def runChecks (w : Warehouse) (a : Asset) : Work CheckError Unit := do
  let queries ← Work.ofExcept a.checkQueries
  let reasons ← (evaluateAll w queries).mapError .warehouse
  if reasons.isEmpty then return else Work.fail (.unmet reasons)

end AssetFlow
