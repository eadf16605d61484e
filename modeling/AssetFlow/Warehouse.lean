import AssetFlow.Asset
import AssetFlow.Warehouse.Name
import AssetFlow.Work

/-!
# The warehouse

The database that assets are materialized in and checked against.

## Main definitions

- `Engine`: what a database answers.
- `Warehouse`: an open database.
- `Warehouse.materialize`, `Warehouse.countRows`, …: the work that is done on it.
- `WarehouseError`: why such work fails.
-/

namespace AssetFlow

/-- What a database answers to a statement. -/
inductive Reply
  | fault (reason : String)
  | noRows
  /-- The first column of the first row; `none` stands for the null value. -/
  | value (n : Option Int)
  deriving DecidableEq, Repr, Inhabited

/-- A database program. -/
structure Engine where
  /-- Why no database can be opened, if none can. -/
  openFault : Option String := none
  /-- The answer to a statement. -/
  answer : String → Reply := fun _ => .value (some 0)
  /-- Whether the user interrupts the run while a statement is at work. -/
  interrupts : String → Bool := fun _ => false

/-- Why work on a database fails. -/
inductive WarehouseError
  | cannotOpen (path reason : String)
  | statementFailed (reason : String)
  /-- A table or view is not there. -/
  | missingRelation (reason : String)
  | noValue (sql : String)
  deriving DecidableEq, Repr

namespace WarehouseError

/-- The message of an error. -/
def message : WarehouseError → String
  | cannotOpen path reason => s!"[D001] Cannot open database {path}: {reason}"
  | statementFailed reason => s!"[D002] Statement failed: {reason}"
  | missingRelation reason => s!"[D003] Relation does not exist: {reason}"
  | noValue sql => s!"[D004] Query produced no value: {sql}"

/-- Whether a text has another one in it. -/
def mentions (text part : String) : Bool :=
  (text.splitOn part).length > 1

/-- Whether a database says that a table or view is not there; its words are all there is to go
by. -/
def tellsMissingRelation (reason : String) : Bool :=
  reason.startsWith "Catalog Error"
    && (mentions reason "does not exist" || mentions reason "not found")
    && (mentions reason "Table" || mentions reason "View")

/-- The error that a database tells of. -/
def ofReason (reason : String) : WarehouseError :=
  if tellsMissingRelation reason then .missingRelation reason else .statementFailed reason

end WarehouseError

/-- The word for a kind of relation in statements. -/
def Materialization.keyword : Materialization → String
  | .table => "TABLE"
  | .view => "VIEW"

/-- An open database. -/
structure Warehouse where
  engine : Engine
  location : String

namespace Warehouse

/-- Opens a database. -/
def connect (engine : Engine) (location : String) : Except WarehouseError Warehouse :=
  match engine.openFault with
  | some reason => .error (.cannotOpen location reason)
  | none => .ok ⟨engine, location⟩

/-- Sends a statement. -/
def send (w : Warehouse) (sql : String) (parameters : List String) :
    Work WarehouseError Reply :=
  ⟨[.sql ⟨w.location, sql, parameters⟩],
    match w.engine.answer sql with
    | .fault reason => .error (.ofReason reason)
    | reply => .ok reply⟩

/-- Runs statements without looking at their results. -/
def runScript (w : Warehouse) (sql : String) : Work WarehouseError Unit := do
  let _ ← w.send sql []

/-- Replaces a relation by the result of a query. -/
def materialize (w : Warehouse) (relation : String) (kind : Materialization) (select : String) :
    Work WarehouseError Unit :=
  w.runScript s!"CREATE OR REPLACE {kind.keyword} {relation} AS {select}"

/-- Makes a schema if it is not there. -/
def ensureSchema (w : Warehouse) (schema : String) : Work WarehouseError Unit :=
  w.runScript s!"CREATE SCHEMA IF NOT EXISTS {schema}"

/-- Drops a relation, be it a view or a table; to drop the one as the other is a fault, which does
not matter. -/
def dropRelation (w : Warehouse) (relation : String) : Work WarehouseError Unit := do
  (w.runScript s!"DROP VIEW IF EXISTS {relation}").ignoringFault
  (w.runScript s!"DROP TABLE IF EXISTS {relation}").ignoringFault

/-- Whether a table or view is there. The name is not quoted, and its schema may be left out. -/
def hasRelation (w : Warehouse) (name : String) : Work WarehouseError Bool := do
  let (schema, table) := (cutAtLastDot? name).getD ("main", name)
  let reply ← w.send ("SELECT count(*) FROM information_schema.tables " ++
    "WHERE table_schema = ? AND table_name = ?") [schema, table]
  match reply with
  | .value (some n) => return decide (n > 0)
  | .value none => Work.fail (.statementFailed "Invalid column type Null")
  | _ => Work.fail (.statementFailed "Query returned no rows")

/-- The first column of the first row. -/
def scalar (w : Warehouse) (sql : String) : Work WarehouseError Int := do
  match ← w.send sql [] with
  | .value (some n) => return n
  | _ => Work.fail (.noValue sql)

/-- The number of rows of a query. -/
def countRows (w : Warehouse) (select : String) : Work WarehouseError Nat := do
  return (← w.scalar s!"SELECT count(*) FROM ({select}) AS counted").toNat

/-- The kind of database. -/
def backend : String := "duckdb"

end Warehouse

end AssetFlow
