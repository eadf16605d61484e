import AssetFlow.Lineage.Merge

/-!
# Resolving lineage

The columns of assets that do not declare any are found from their SQL, those of their upstreams
first.

## Main definitions

- `Analyzer`: how the lineage of a text of SQL is found.
- `Resolver`: an analyzer with the columns known beforehand.
- `Resolver.parseLineage`, `Resolver.parseInPlace`: resolve one asset.
- `Resolver.columnLineage`, `Resolver.resolveAll`: resolve an asset with all that it is read from,
  and all assets.

## Design notes

The steps that resolve several assets keep what they have found when they fail: their state is that
of a `StateM` below the error.
-/

namespace AssetFlow

open Sql (Schema Output)

/-- How the lineage of a text of SQL is found. -/
abbrev Analyzer := Sql.Dialect → Schema → String → Except Sql.SqlError (List Output)

/-- An analyzer with the columns known beforehand. -/
structure Resolver where
  schema : Schema := {}
  analyze : Analyzer := Sql.columnLineage

/-- The known columns of an asset, as a table. -/
def Asset.schemaColumns (a : Asset) : List Sql.SchemaColumn :=
  a.columns.map fun c => ⟨c.name, c.type⟩

namespace Resolver

/-- Adds the columns of all assets that have some to those known beforehand. -/
def addColumns (r : Resolver) (p : Pipeline) : Resolver :=
  let insert (s : Schema) (a : Asset) : Schema :=
    if a.columns.isEmpty then s else s.insert a.name.text a.schemaColumns
  { r with schema := p.assets.foldl insert r.schema }

/-- The columns known beforehand with those of the upstreams of an asset. -/
def schemaFor (r : Resolver) (p : Pipeline) (a : Asset) : Schema :=
  r.schema.overlay <| a.upstreams.foldl
    (fun s u => match p.asset? u.text with
      | some up => s.insert up.name.text up.schemaColumns
      | none => s)
    {}

/-- The columns that an asset gets from its SQL. -/
def derive (r : Resolver) (p : Pipeline) (a : Asset) : Except LineageError Asset := do
  let some d := Sql.Dialect.ofAssetType? a.type
    | throw (.parse a.name.text (.unknownDialect a.type))
  let lineage ← (r.analyze d (r.schemaFor p a) a.sql).mapError (.parse a.name.text)
  p.mergeLineage a lineage

/-- Resolves one asset from what is known of its upstreams. -/
def parseLineage (r : Resolver) (p : Pipeline) (name : String) : Except LineageError Pipeline := do
  let some a := p.asset? name | throw (.assetNotFound name)
  let found ← r.derive p a
  return p.updateAsset name fun a => { a with columns := found.columns }

/-- Resolves one asset of a pipeline in place: its columns are found on a copy of it, which is put
back when all of them are there. -/
def parseInPlace (r : Resolver) (name : String) : ExceptT LineageError (StateM Pipeline) Unit := do
  let p ← get
  let some a := p.asset? name | throw (.assetNotFound name)
  let found ← MonadExcept.ofExcept (r.derive p a)
  modify fun p => p.updateAsset name fun a => { a with columns := found.columns }

/-- A pipeline while it is resolved. -/
structure Progress where
  pipeline : Pipeline
  /-- The assets that are done with. -/
  done : List String := []

/-- A step of resolving, which keeps what was found when it fails. -/
abbrev Resolving := ExceptT LineageError (StateM Progress)

/-- Resolves one asset if that is possible. -/
def resolveHere (r : Resolver) (name : String) : Resolving Unit :=
  modify fun s =>
    { pipeline := match r.parseLineage s.pipeline name with
        | .ok p => p
        | .error _ => s.pipeline
      done := name :: s.done }

/-- The cycle that closes when a way through assets comes back to one of them. -/
def closedCycle (path : List String) (name : String) : List String :=
  path.dropWhile (· != name) ++ [name]

/-- Resolves an asset, its upstreams first. `path` are the assets on the way to it; an asset with
columns, and a name of no asset, need not be resolved. Since no asset is twice on the way, the fuel
need not exceed the number of assets by more than one. -/
def resolve (r : Resolver) : (fuel : Nat) → (path : List String) → (name : String) → Resolving Unit
  | 0, _, _ => return
  | fuel + 1, path, name => do
    let s ← get
    match s.pipeline.asset? name with
    | none => return
    | some a =>
      if !a.columns.isEmpty || s.done.contains name then return
      if path.contains name then throw (.cycle (closedCycle path name))
      a.upstreams.forM fun u => resolve r fuel (path ++ [name]) u.text
      r.resolveHere name

/-- Runs a step of resolving on a pipeline. -/
def runOn (p : Pipeline) (step : Resolving Unit) : Except LineageError Unit × Pipeline :=
  let (result, s) := step.run.run { pipeline := p }
  (result, s.pipeline)

/-- Resolves an asset with all that it is read from. -/
def columnLineage (r : Resolver) (p : Pipeline) (name : String) :
    Except LineageError Unit × Pipeline :=
  runOn p (r.resolve (p.assets.length + 1) [] name)

/-- Resolves all assets. -/
def resolveAll (r : Resolver) (p : Pipeline) : Except LineageError Unit × Pipeline :=
  runOn p (p.names.forM fun n => r.resolve (p.assets.length + 1) [] n.text)

end Resolver

end AssetFlow
