import AssetFlow.Asset
import AssetFlow.Document.Decimal
import AssetFlow.Document.Describe
import AssetFlow.Text.Blank
import AssetFlow.Warehouse

/-!
# Checks as queries

A check of a column is a query for the rows that violate it, and is met if there are none. A custom
check is a query for a number, and is met if the number is the expected one.

## Main definitions

- `CheckQuery`: a check as a query.
- `ColumnCheck.query`: the query of a check of a column.
- `Asset.checkQueries`: the queries of all checks of an asset.
- `CheckError`: why an asset does not pass its checks.
-/

namespace AssetFlow

open Document Warehouse

/-- Why an asset does not pass its checks. -/
inductive CheckError
  | unknownCheck (check column : String)
  | unsupportedValue (value : Value)
  /-- The accepted values are no list. -/
  | noValues
  /-- The list of accepted values is empty. -/
  | emptyValues
  /-- A bound is no finite number. -/
  | noBound (check : String)
  | warehouse (e : WarehouseError)
  /-- Blocking checks are not met. -/
  | unmet (reasons : List String)
  deriving BEq, Repr

namespace CheckError

/-- The message of an error. -/
def message : CheckError → String
  | unknownCheck check column => s!"unknown check '{check}' on column '{column}'"
  | unsupportedValue v => "unsupported accepted value: " ++ v.describe
  | noValues => "accepted_values needs a list of values"
  | emptyValues => "accepted_values needs at least one value"
  | noBound check => s!"{check} needs a finite numeric value"
  | warehouse e => e.message
  | unmet reasons => "; ".intercalate reasons

end CheckError

/-- What the answer to a check must be. -/
inductive Expectation
  | noRows
  | value (n : Int)
  deriving DecidableEq, Repr

/-- A check as a query. -/
structure CheckQuery where
  /-- The name that is shown to the user. -/
  name : String
  expectation : Expectation
  sql : String
  /-- Whether the asset fails if the check is not met. -/
  blocking : Bool
  deriving DecidableEq, Repr

/-- A value as a literal of a statement. -/
def literal : Value → Except CheckError String
  | .text s => .ok ("'" ++ Sql.escapeLiteral s ++ "'")
  | .int n => .ok (toString n)
  | .float x => .ok (floatText x)
  | .bool b => .ok (if b then "TRUE" else "FALSE")
  | v => .error (.unsupportedValue v)

namespace ColumnCheck

/-- The values that a check accepts, as they are listed in a statement. -/
def acceptedValues (c : ColumnCheck) : Except CheckError String :=
  match c.value with
  | some (.list []) => .error .emptyValues
  | some (.list values) => return ", ".intercalate (← values.mapM literal)
  | _ => .error .noValues

/-- The number that a value stands for; a text stands for the number that it spells. -/
def number? : Value → Option Binary64
  | .int n => some (.ofInt n)
  | .float x => if x.isFinite then some x else none
  | .text s => decimal? (Text.trim s)
  | _ => none

/-- The bound of a check, as it is written in a statement. -/
def bound (c : ColumnCheck) : Except CheckError String :=
  match c.value.bind number? with
  | some x => .ok x.spellPlain
  | none => .error (.noBound c.name)

/-- The query for the rows of a table that violate a check of a column. -/
def query (table column : String) (c : ColumnCheck) : Except CheckError String :=
  let t := quoteQualified table
  let q := quoteName column
  let rowsWhere (condition : String) := s!"SELECT * FROM {t} WHERE {q} {condition}"
  match c.name with
  | "not_null" => .ok (rowsWhere "IS NULL")
  | "unique" =>
    .ok s!"SELECT {q}, COUNT(*) AS cnt\nFROM {t}\nGROUP BY {q}\nHAVING COUNT(*) > 1"
  | "positive" => .ok (rowsWhere "<= 0")
  | "non_negative" => .ok (rowsWhere "< 0")
  | "negative" => .ok (rowsWhere ">= 0")
  | "accepted_values" => do
    let values ← c.acceptedValues
    return rowsWhere s!"NOT IN ({values}) OR {q} IS NULL"
  | "min" => return rowsWhere ("< " ++ (← c.bound))
  | "max" => return rowsWhere ("> " ++ (← c.bound))
  | other => .error (.unknownCheck other column)

/-- A check of a column as a query. -/
def compile (table column : String) (c : ColumnCheck) : Except CheckError CheckQuery := do
  let sql ← c.query table column
  return ⟨s!"{c.name}({column})", .noRows, sql, c.blocking⟩

end ColumnCheck

/-- A query without what separates it from a next one. -/
def withoutEnd (query : String) : String :=
  String.ofList ((query.toList.reverse.dropWhile (· == ';')).reverse)

/-- A custom check as a query. -/
def CustomCheck.compile (c : CustomCheck) : CheckQuery :=
  ⟨c.name, .value c.value, withoutEnd (Text.trim c.query), c.blocking⟩

/-- The queries of all checks of an asset: those of the columns, then the custom ones. -/
def Asset.checkQueries (a : Asset) : Except CheckError (List CheckQuery) := do
  let ofColumns ← (a.columns.flatMap fun column => column.checks.map fun c => (column.name, c)).mapM
    fun (column, c) => c.compile a.name.text column
  return ofColumns ++ a.customChecks.map CustomCheck.compile

end AssetFlow
