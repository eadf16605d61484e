import AssetFlow.Document.Value

/-!
# Assets

An asset is a named unit of work that produces data: a table or view defined by SQL, or a script.
It refers to other assets by name, and its columns record which columns they are computed from.

## Main definitions

- `AssetName`: a text that is not empty.
- `ColumnEdge`, `Provenance`: where a column comes from.
- `Column`, `Asset`: the data model.

## Design notes

A `Provenance` is kept in the order of insertion and holds a pair of asset and column once:
`Provenance.push` is the only way that edges are added.
-/

namespace AssetFlow

open Document (Value)

/-- The name of an asset, unique in its pipeline and sensitive to case. -/
structure AssetName where
  text : String
  nonempty : text ≠ ""
  deriving DecidableEq, Repr

namespace AssetName

/-- The asset name that a text is. -/
def ofText? (s : String) : Option AssetName :=
  if h : s ≠ "" then some ⟨s, h⟩ else none

instance : ToString AssetName := ⟨text⟩

end AssetName

/-- A column that another column is computed from. -/
structure ColumnEdge where
  /-- The asset that has the column; it need not be in the pipeline. -/
  asset : String
  column : String
  /-- The physical table that the column is read from. -/
  table : String := ""
  deriving DecidableEq, Repr, Inhabited

/-- The edges of a column, in the order of insertion. -/
abbrev Provenance := List ColumnEdge

namespace Provenance

/-- Whether there is an edge to a column of an asset. -/
def has (p : Provenance) (asset column : String) : Bool :=
  p.any fun e => e.asset == asset && e.column == column

/-- Adds an edge, unless there is one to the same column. -/
def push (p : Provenance) (e : ColumnEdge) : Provenance :=
  if p.has e.asset e.column then p else p ++ [e]

/-- The provenance with the edges of a list, where the first of several edges to one column
counts. -/
def ofList (es : List ColumnEdge) : Provenance :=
  es.foldl push []

end Provenance

/-- What a column means to the business. -/
structure EntityAttribute where
  entity : String
  attributeName : String
  deriving DecidableEq, Repr, Inhabited

/-- A check of the values of a column. -/
structure ColumnCheck where
  name : String
  /-- The allowed values, the bound, and the like. -/
  value : Option Value := none
  /-- Whether the asset fails if the check does. -/
  blocking : Bool := true
  deriving BEq, Repr, Inhabited

/-- A check by a query of its own, which must answer `value`. -/
structure CustomCheck where
  name : String
  query : String
  value : Int := 0
  blocking : Bool := true
  deriving BEq, Repr, Inhabited

/-- A column of an asset, declared or found by lineage. -/
structure Column where
  name : String
  type : String := ""
  primaryKey : Bool := false
  description : String := ""
  checks : List ColumnCheck := []
  entityAttribute : Option EntityAttribute := none
  updateOnMerge : Bool := false
  provenance : Provenance := []
  deriving BEq, Repr, Inhabited

/-- How the rows of an asset are kept. -/
inductive Materialization
  | table
  | view
  deriving DecidableEq, Repr, Inhabited

namespace Materialization

/-- The name in definitions. -/
def name : Materialization → String
  | table => "table"
  | view => "view"

/-- The materialization with a name. -/
def ofName? : String → Option Materialization
  | "table" => some table
  | "view" => some view
  | _ => none

end Materialization

/-- A named unit of work that produces data. -/
structure Asset where
  name : AssetName
  /-- Selects the dialect of the SQL, or how a script is run. -/
  type : String
  description : String := ""
  /-- The SQL or the text of the script. -/
  sql : String := ""
  tags : List String := []
  /-- The assets and tables it reads, in the order of declaration. -/
  upstreams : List AssetName := []
  materialization : Materialization := .table
  /-- The columns; none if they are not known. -/
  columns : List Column := []
  customChecks : List CustomCheck := []
  /-- The file that the asset was read from. -/
  path : Option String := none
  deriving BEq, Repr

namespace Asset

/-- The column with exactly this name. -/
def column? (a : Asset) (name : String) : Option Column :=
  a.columns.find? (·.name == name)

/-- Changes the first column with exactly this name. -/
def updateColumn (a : Asset) (name : String) (f : Column → Column) : Asset :=
  let rec go : List Column → List Column
    | [] => []
    | c :: rest => if c.name == name then f c :: rest else c :: go rest
  { a with columns := go a.columns }

/-- Adds a column at the end. -/
def addColumn (a : Asset) (c : Column) : Asset :=
  { a with columns := a.columns ++ [c] }

/-- Whether the asset carries the tag. -/
def hasTag (a : Asset) (tag : String) : Bool :=
  a.tags.contains tag

/-- Whether there is anything to check. -/
def hasChecks (a : Asset) : Bool :=
  !a.customChecks.isEmpty || a.columns.any fun c => !c.checks.isEmpty

/-- Adds an upstream, unless it is there already. -/
def addUpstream (a : Asset) (name : AssetName) : Asset :=
  if a.upstreams.contains name then a else { a with upstreams := a.upstreams ++ [name] }

/-- Whether the asset is a script. -/
def isScript (a : Asset) : Bool :=
  a.type == "python"

end Asset

end AssetFlow
