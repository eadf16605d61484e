import AssetFlow.Pipeline
import AssetFlow.Sql.Lineage

/-!
# Columns from lineage

What the lineage of the SQL of an asset says is merged into its columns: a column that is not there
is made from the column that it is computed from, and each column remembers where it comes from.

## Main definitions

- `LineageError`: why lineage cannot be resolved.
- `Asset.addDerived`: merges one reference into the columns of an asset.
- `mergeLineage`: merges lineage into the columns of an asset.
-/

namespace AssetFlow

open Sql (ColumnRef Output)

/-- Why lineage cannot be resolved. -/
inductive LineageError
  | invalidArguments (message : String)
  | assetNotFound (name : String)
  /-- The assets on the cycle, the first of them again at the end. -/
  | cycle (names : List String)
  | parse (asset : String) (source : Sql.SqlError)
  deriving DecidableEq, Repr

/-- The message of an error, where `wording` says what is wrong with SQL. -/
def LineageError.message (wording : String) : LineageError → String
  | .invalidArguments m => s!"[L001] Invalid arguments: {m}"
  | .assetNotFound name => s!"[L002] Asset not found: {name}"
  | .cycle names => "[L003] Cycle detected while resolving lineage: " ++ showWay names
  | .parse asset source =>
    s!"[L004] Failed to parse column lineage of '{asset}': " ++ source.message wording

namespace Asset

/-- The column that is made from a column of an upstream asset. -/
def inheritedColumn (name upstream : String) (source : Column) : Column :=
  { name
    type := source.type
    entityAttribute := source.entityAttribute
    updateOnMerge := source.updateOnMerge
    provenance := [⟨upstream, source.name, upstream⟩] }

/-- Merges one reference into the columns of an asset: its column `name` is computed from the column
`source`, which belongs to the asset `upstream`, or to no asset. In the second case a column that
is not there becomes a copy of the source. -/
def addDerived (a : Asset) (name : String) (upstream : Option String) (source : Column) :
    Except LineageError Asset :=
  if name.isEmpty then
    .error (.invalidArguments s!"empty column name for asset '{a.name}'")
  else if name == "*" then .ok a
  else if (a.column? name).isSome then
    .ok <| match upstream with
      | some u => a.updateColumn name fun c =>
          { c with provenance := c.provenance.push ⟨u, source.name, u⟩ }
      | none => a
  else
    .ok <| a.addColumn <| match upstream with
      | some u => inheritedColumn name u source
      | none => { source with name }

end Asset

namespace Pipeline

/-- Looks for a type along the upstreams in `queue`, nearest first. -/
def searchType (p : Pipeline) (column : String) : (fuel : Nat) → List String → List String →
    Option String
  | 0, _, _ => none
  | _ + 1, _, [] => none
  | fuel + 1, seen, name :: queue =>
    if seen.contains name then searchType p column fuel seen queue
    else
      match p.asset? name with
      | none => searchType p column fuel (name :: seen) queue
      | some up =>
        match (up.column? column).filter (!·.type.isEmpty) with
        | some c => some c.type
        | none =>
          searchType p column fuel (name :: seen) (queue ++ up.upstreams.map AssetName.text)

/-- The type of the nearest column of this name among all that an asset is read from. -/
def inheritedType (p : Pipeline) (a : Asset) (column : String) : Option String :=
  let references := (p.assets.map (·.upstreams.length)).foldl (· + ·) a.upstreams.length
  p.searchType column (references + 1) [a.name.text] (a.upstreams.map AssetName.text)

/-- The column of an asset that a reference means; one that is not known gets the type that it
inherits, or else the name of its table. -/
def sourceColumn (p : Pipeline) (upstream : Asset) (r : ColumnRef) : Column :=
  match upstream.column? r.column with
  | some c => c
  | none => { name := r.column, type := (p.inheritedType upstream r.column).getD r.table }

/-- The column of a table that is no asset. -/
def externalColumn (r : ColumnRef) : Column :=
  let table := Text.lower r.table
  { name := r.column, type := table, provenance := [⟨table, r.column, table⟩] }

/-- Merges all columns of the asset that a reference to unknown columns means. -/
def mergeWildcard (p : Pipeline) (a : Asset) (r : ColumnRef) : Except LineageError Asset :=
  if r.column != "*" then .ok a
  else match p.asset? r.table with
    | none => .ok a
    | some up => up.columns.foldlM (fun a c => a.addDerived c.name (some up.name.text) c) a

/-- Merges one reference of an output into the column of its name. -/
def mergeReference (p : Pipeline) (name : String) (a : Asset) (r : ColumnRef) :
    Except LineageError Asset :=
  if r.column == "*" || r.table == a.name.text then .ok a
  else match p.asset? r.table with
    | none => a.addDerived name none (externalColumn r)
    | some up => a.addDerived name (some up.name.text) (p.sourceColumn up r)

/-- Merges one output into the columns of an asset. -/
def mergeOutput (p : Pipeline) (a : Asset) (o : Output) : Except LineageError Asset :=
  if o.isWildcard then o.sources.foldlM p.mergeWildcard a
  else o.sources.foldlM (p.mergeReference o.name) a

/-- Merges lineage into the columns of an asset. -/
def mergeLineage (p : Pipeline) (a : Asset) (lineage : List Output) : Except LineageError Asset :=
  lineage.foldlM p.mergeOutput a

end Pipeline

end AssetFlow
