import AssetFlow.Check.Run
import AssetFlow.Document.Json
import AssetFlow.Run.Plan
import AssetFlow.Template.Window

/-!
# Carrying out tasks

A task works on the database of its pipeline, or runs a script that does.

## Main definitions

- `Host`: what tasks find outside the program.
- `Workplace`: what the tasks of a run have in common.
- `Workplace.carryOut`: the work of a task.
- `TaskError`: why a task fails.
-/

namespace AssetFlow

open Document Warehouse

/-- What came of running a script. -/
inductive ScriptResult
  /-- The program that runs scripts could not be started. -/
  | notStarted (reason : String)
  /-- The exit code, if the script was not killed, and what it said of its errors. -/
  | exited (code : Option Nat) (errors : String)
  deriving DecidableEq, Repr

/-- What tasks find outside the program. -/
structure Host where
  engine : Engine := {}
  runScript : ScriptRequest → ScriptResult

/-- Why a task fails. -/
inductive TaskError
  | template (e : Template.TemplateError)
  | noSql (asset : String)
  | warehouse (e : WarehouseError)
  | check (e : CheckError)
  | noScript (asset : String)
  | notStarted (manager : PackageManager) (reason : String)
  | scriptFailed (code : Option Nat) (errors : String)
  | missingOutput (asset : String)
  deriving BEq, Repr

namespace TaskError

/-- The message of an error. -/
def message : TaskError → String
  | template e => "Failed to render asset template: " ++ e.message
  | noSql asset => s!"asset '{asset}' has no SQL"
  | warehouse e => e.message
  | check e => e.message
  | noScript asset => s!"python asset '{asset}' has no script file"
  | notStarted .uv reason => s!"Failed to execute 'uv run', is uv installed?: {reason}"
  | notStarted .pip reason => s!"Failed to execute 'python3': {reason}"
  | scriptFailed code errors =>
    let shown := match code with
      | some n => toString n
      | none => "-1"
    s!"script exited with {shown}:\n" ++ Text.trimEnd errors
  | missingOutput asset => s!"script did not create the expected output table '{asset}'"

end TaskError

/-- What the tasks of a run have in common. -/
structure Workplace where
  host : Host
  /-- The file of the database. -/
  database : String
  config : RunConfig

namespace Workplace

/-- Opens the database. -/
def connect (p : Workplace) : Work TaskError Warehouse :=
  .ofExcept ((Warehouse.connect p.host.engine p.database).mapError .warehouse)

/-- The query that an asset is the result of, as it is sent in this run. -/
def query (p : Workplace) (a : Asset) : Except TaskError String := do
  let sql ← (p.config.renderSql a.sql).mapError .template
  let select := Text.trimEnd (withoutEnd (Text.trim sql))
  if select.isEmpty then .error (.noSql a.name.text) else return select

/-- The statements that replace the relation of an asset. -/
def replace (p : Workplace) (w : Warehouse) (a : Asset) (select : String) :
    Work WarehouseError Unit := do
  let relation := quoteQualified a.name.text
  match schemaOf? a.name.text with
  | some schema => w.ensureSchema (quoteQualified schema)
  | none => pure ()
  if p.config.fullRefresh then w.dropRelation relation
  w.materialize relation a.materialization select

/-- Produces the data of an asset by SQL. -/
def materialize (p : Workplace) (w : Warehouse) (a : Asset) : Work TaskError Unit := do
  let select ← .ofExcept (p.query a)
  (p.replace w a select).mapError .warehouse

/-- What a script is told of the run. -/
def environment (p : Workplace) (a : Asset) : List (String × String) :=
  [("TRIB_DATABASE_PATH", p.database), ("TRIB_ASSET_NAME", a.name.text),
    ("TRIB_OUTPUT_TABLE", a.name.text),
    ("TRIB_INPUT_TABLES", Json.compact (.texts (a.upstreams.map AssetName.text))),
    ("TRIB_START_DATE", p.config.startDate.stamp), ("TRIB_END_DATE", p.config.endDate.stamp),
    ("TRIB_FULL_REFRESH", if p.config.fullRefresh then "1" else "0")] ++
  match p.config.environment with
  | some e => [("TRIB_ENVIRONMENT", e)]
  | none => []

/-- The way a script is run. -/
def request (p : Workplace) (a : Asset) (file : String) : ScriptRequest :=
  match p.config.packageManager with
  | .uv => ⟨"uv", ["run", file], p.environment a⟩
  | .pip => ⟨"python3", [file], p.environment a⟩

/-- Runs a script. -/
def execute (p : Workplace) (r : ScriptRequest) : Work TaskError Unit :=
  ⟨[.script r],
    match p.host.runScript r with
    | .notStarted reason => .error (.notStarted p.config.packageManager reason)
    | .exited (some 0) _ => .ok ()
    | .exited code errors => .error (.scriptFailed code errors)⟩

/-- Produces the data of an asset by a script. A script that declares columns must leave a table
behind. -/
def runScript (p : Workplace) (a : Asset) : Work TaskError Unit := do
  match a.path with
  | none => Work.fail (.noScript a.name.text)
  | some file =>
    p.execute (p.request a file)
    if a.columns.isEmpty then return
    let w ← p.connect
    let there ← (w.hasRelation a.name.text).mapError .warehouse
    if there then return else Work.fail (.missingOutput a.name.text)

/-- The statements that describe an asset and its columns. -/
def descriptions (a : Asset) : List String :=
  let relation := quoteQualified a.name.text
  let comment (what text : String) :=
    s!"COMMENT ON {what} IS '" ++ Sql.escapeLiteral text ++ "';"
  (if a.description.isEmpty then []
    else [comment s!"{a.materialization.keyword} {relation}" a.description]) ++
  (a.columns.filter fun c => !c.description.isEmpty).map fun c =>
    comment s!"COLUMN {relation}.{quoteName c.name}" c.description

/-- Describes an asset at its destination. -/
def describe (w : Warehouse) (a : Asset) : Work TaskError Unit :=
  let statements := descriptions a
  if statements.isEmpty then Work.done ()
  else (w.runScript ("\n".intercalate statements)).mapError .warehouse

/-- The work of a task. -/
def carryOut (p : Workplace) (a : Asset) (kind : TaskKind) : Work TaskError Unit :=
  if kind == .main && a.isScript then p.runScript a
  else do
    let w ← p.connect
    match kind with
    | .main => p.materialize w a
    | .checks => (runChecks w a).mapError .check
    | .pushMetadata => describe w a

end Workplace

end AssetFlow
