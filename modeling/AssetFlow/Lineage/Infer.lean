import AssetFlow.Pipeline
import AssetFlow.Sql.Lineage

/-!
# Upstreams from SQL

The assets that the SQL of an asset reads are added to its upstreams.

## Main definitions

- `matchAsset`: the asset that a table reference means.
- `Pipeline.inferUpstreams`: the pipeline with the upstreams found, and how many there were.
-/

namespace AssetFlow

/-- The asset that a table reference means: the one with exactly this name, or else the first one
whose name differs only in the case of ASCII letters. -/
def matchAsset (names : List AssetName) (table : String) : Option AssetName :=
  match names.find? (·.text == table) with
  | some n => some n
  | none => names.find? fun n => Text.equalsIgnoringAsciiCase n.text table

/-- How the tables that a text of SQL mentions are found. -/
abbrev TableFinder := Sql.Dialect → String → Except Sql.SqlError (List String)

/-- The assets that the SQL of an asset reads, other than itself. There are none if the SQL cannot
be read. -/
def Asset.readAssets (find : TableFinder) (names : List AssetName) (a : Asset) : List AssetName :=
  match Sql.Dialect.ofAssetType? a.type with
  | none => []
  | some d =>
    match find d a.sql with
    | .error _ => []
    | .ok tables => (tables.filterMap (matchAsset names)).filter (· != a.name)

/-- Adds upstreams, each unless it is there already. -/
def Asset.addUpstreams (a : Asset) (found : List AssetName) : Asset :=
  found.foldl Asset.addUpstream a

/-- The number of upstreams that are added when each of `found` is, unless it is there already. -/
def Asset.countAdded (a : Asset) : List AssetName → Nat
  | [] => 0
  | u :: found =>
    if a.upstreams.contains u then a.countAdded found
    else (a.addUpstream u).countAdded found + 1

namespace Pipeline

/-- The pipeline with the upstreams that `find` finds in the SQL of its assets. -/
def inferUpstreamsWith (find : TableFinder) (p : Pipeline) : Pipeline :=
  p.mapAssets fun a => a.addUpstreams (a.readAssets find p.names)

/-- The pipeline with the upstreams that its SQL reads, and the number of those that were added. -/
def inferUpstreams (p : Pipeline) : Pipeline × Nat :=
  (p.inferUpstreamsWith Sql.referencedTables, p.assets.foldl
    (fun n a => n + a.countAdded (a.readAssets Sql.referencedTables p.names)) 0)

end Pipeline

end AssetFlow
