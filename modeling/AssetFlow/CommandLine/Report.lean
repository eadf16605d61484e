import AssetFlow.Document.Json
import AssetFlow.Pipeline
import AssetFlow.Run.Scheduler

/-!
# What the user is shown

## Main definitions

- `taskLine`: how a task ended.
- `runReport`: what a run amounts to.
- `lineageTable`, `lineageDocument`: the columns of assets and where they come from.
-/

namespace AssetFlow.CommandLine

open Document (Value)

/-- A line that only those see who want to be told all. -/
def detailLine (s : String) : String :=
  "[verbose] " ++ s

/-! ### Runs -/

/-- The lines before a run. -/
def runHeading (name : String) (count : Nat) : String :=
  s!"Running pipeline '{name}' ({count} assets)...\n\n"

/-- The name of a task for the user. -/
def taskLabel (t : TaskId) : String :=
  match t.kind with
  | .main => t.asset.text
  | kind => s!"{t.asset.text} ({kind.name})"

/-- How a task ended. -/
def taskLine (t : TaskId) (fault : Option String) (milliseconds : Nat) : String :=
  let label := taskLabel t
  match fault with
  | none => s!"  ✓ {label} [{milliseconds}ms]\n"
  | some m => s!"  ✗ {label} - {m} [{milliseconds}ms]\n"

/-- The assets that failed. -/
def failedLines (s : RunSummary) : String :=
  if s.hasFailures then
    "\nFailed assets:\n" ++ String.join (s.failed.map fun (name, e) => s!"  ✗ {name} - {e}\n")
  else ""

/-- The assets that were left out. -/
def skippedLines (s : RunSummary) : String :=
  let continued := (s.skippedFor .previouslySucceeded).length
  let filtered := (s.skippedFor .filtered).length
  (if continued == 0 then ""
    else s!"\nSkipped {continued} asset(s) that succeeded in the previous run\n") ++
  (if filtered == 0 then ""
    else s!"\nSkipped {filtered} asset(s) excluded by filters\n")

/-- The assets that a cancelled run did not come to. -/
def pendingLines (s : RunSummary) : String :=
  if s.pending.isEmpty then ""
  else
    let names := ", ".intercalate s.pending
    s!"\n{s.pending.length} asset(s) not started: {names}\n"

/-- What a run amounts to. -/
def runReport (s : RunSummary) (milliseconds : Nat) : String :=
  failedLines s ++ skippedLines s ++ pendingLines s ++
  s!"\nCompleted: {s.succeeded.length} succeeded, {s.failed.length} failed, " ++
  s!"{s.skipped.length} skipped\nTotal time: {milliseconds}ms\n"

/-! ### Lineage -/

/-- Where a column comes from. -/
def origins (c : Column) : List String :=
  c.provenance.map fun e => e.asset ++ "." ++ e.column

/-- A text with blanks behind it, up to a width. -/
def padRight (width : Nat) (s : String) : String :=
  s ++ String.ofList (List.replicate (width - s.length) ' ')

/-- A row of the table of columns. -/
def tableRow (asset column type upstream : String) : String :=
  padRight 30 asset ++ " " ++ padRight 25 column ++ " " ++ padRight 15 type ++ " " ++ upstream ++
    "\n"

/-- The table of the columns of assets. -/
def lineageTable (assets : List Asset) : String :=
  let rows := assets.flatMap fun a => a.columns.map fun c =>
    let upstream := if c.provenance.isEmpty then "-" else ", ".intercalate (origins c)
    tableRow a.name.text c.name c.type upstream
  if rows.isEmpty then "No column lineage found.\n"
  else
    tableRow "ASSET" "COLUMN" "TYPE" "UPSTREAM" ++
    String.ofList (List.replicate 100 '-') ++ "\n" ++ String.join rows ++
    s!"\n{rows.length} column(s) across {assets.length} asset(s).\n"

/-- The columns of assets as a document. -/
def lineageDocument (assets : List Asset) : String :=
  let columnOut (c : Column) : Value :=
    .fields [("name", .text c.name), ("type", .text c.type), ("upstreams", .texts (origins c))]
  let assetOut (a : Asset) : Value :=
    .fields [("name", .text a.name.text), ("type", .text a.type),
      ("upstreams", .texts (a.upstreams.map AssetName.text)),
      ("columns", .list (a.columns.map columnOut))]
  Document.Json.pretty (.list (assets.map assetOut)) ++ "\n"

end AssetFlow.CommandLine
