import AssetFlow.Asset
import AssetFlow.Document.Decode

/-!
# Assets in documents

Reading and writing assets, columns and checks. Keys that are not known are ignored, and most
fields may be left out.

## Main definitions

- `Asset.read?`, `Column.read?`, `ColumnCheck.read?`, `CustomCheck.read?`, `ColumnEdge.read?`
- `Asset.write`, `Column.write`, `ColumnCheck.write`, `CustomCheck.write`, `ColumnEdge.write`
-/

namespace AssetFlow

open Document

/-- Reads the name of an asset. -/
def AssetName.read? (n : Node) : Option AssetName := do
  AssetName.ofText? (← n.text?)

namespace ColumnEdge

/-- Reads an edge. -/
def read? (n : Node) : Option ColumnEdge := do
  let fs ← n.fields? ["asset", "column", "table"] false
  return ⟨← fs.required "asset" Node.text?, ← fs.required "column" Node.text?,
    ← fs.withDefault "table" "" Node.text?⟩

/-- Writes an edge. -/
def write (e : ColumnEdge) : Value :=
  .fields [("asset", .text e.asset), ("column", .text e.column), ("table", .text e.table)]

end ColumnEdge

namespace Provenance

/-- Reads edges, dropping repeated ones. -/
def read? (n : Node) : Option Provenance := do
  return ofList (← n.list? ColumnEdge.read?)

/-- Writes edges. -/
def write (p : Provenance) : Value :=
  .list (p.map ColumnEdge.write)

end Provenance

namespace EntityAttribute

/-- Reads what a column means. -/
def read? (n : Node) : Option EntityAttribute := do
  let fs ← n.fields? ["entity", "attribute"] false
  return ⟨← fs.required "entity" Node.text?, ← fs.required "attribute" Node.text?⟩

/-- Writes what a column means. -/
def write (e : EntityAttribute) : Value :=
  .fields [("entity", .text e.entity), ("attribute", .text e.attributeName)]

end EntityAttribute

namespace ColumnCheck

/-- Reads a check. -/
def read? (n : Node) : Option ColumnCheck := do
  let fs ← n.fields? ["name", "value", "blocking"] false
  return ⟨← fs.required "name" Node.text?, ← fs.optional "value" Node.value?,
    ← fs.withDefault "blocking" true Node.bool?⟩

/-- Writes a check. -/
def write (c : ColumnCheck) : Value :=
  .fields <| ("name", .text c.name) ::
    (match c.value with | some v => [("value", v)] | none => []) ++
    [("blocking", .bool c.blocking)]

end ColumnCheck

namespace CustomCheck

/-- Reads a check. -/
def read? (n : Node) : Option CustomCheck := do
  let fs ← n.fields? ["name", "query", "value", "blocking"] false
  return ⟨← fs.required "name" Node.text?, ← fs.required "query" Node.text?,
    ← fs.withDefault "value" 0 Node.signed?, ← fs.withDefault "blocking" true Node.bool?⟩

/-- Writes a check. -/
def write (c : CustomCheck) : Value :=
  .fields [("name", .text c.name), ("query", .text c.query), ("value", .int c.value),
    ("blocking", .bool c.blocking)]

end CustomCheck

namespace Column

/-- Reads a column. -/
def read? (n : Node) : Option Column := do
  let fs ← n.fields? ["name", "type", "primary_key", "description", "checks", "entity_attribute",
    "update_on_merge", "upstreams"] false
  return {
    name := ← fs.required "name" Node.text?
    type := ← fs.withDefault "type" "" Node.text?
    primaryKey := ← fs.withDefault "primary_key" false Node.bool?
    description := ← fs.withDefault "description" "" Node.text?
    checks := ← fs.withDefault "checks" [] (Node.list? ColumnCheck.read?)
    entityAttribute := ← fs.optional "entity_attribute" EntityAttribute.read?
    updateOnMerge := ← fs.withDefault "update_on_merge" false Node.bool?
    provenance := ← fs.withDefault "upstreams" [] Provenance.read? }

/-- Writes a column. -/
def write (c : Column) : Value :=
  .fields <|
    [("name", .text c.name), ("type", .text c.type), ("primary_key", .bool c.primaryKey),
      ("description", .text c.description), ("checks", .list (c.checks.map ColumnCheck.write))] ++
    (match c.entityAttribute with
      | some e => [("entity_attribute", e.write)]
      | none => []) ++
    [("update_on_merge", .bool c.updateOnMerge), ("upstreams", c.provenance.write)]

end Column

/-- Reads a materialization. -/
def Materialization.read? (n : Node) : Option Materialization := do
  Materialization.ofName? (← n.choice?)

namespace Asset

/-- Reads an asset. -/
def read? (n : Node) : Option Asset := do
  let fs ← n.fields? ["name", "type", "description", "sql", "tags", "upstreams",
    "materialization", "columns", "custom_checks"] false
  return {
    name := ← fs.required "name" AssetName.read?
    type := ← fs.required "type" Node.text?
    description := ← fs.withDefault "description" "" Node.text?
    sql := ← fs.withDefault "sql" "" Node.text?
    tags := ← fs.withDefault "tags" [] (Node.list? Node.text?)
    upstreams := ← fs.withDefault "upstreams" [] (Node.list? AssetName.read?)
    materialization := ← fs.withDefault "materialization" .table Materialization.read?
    columns := ← fs.withDefault "columns" [] (Node.list? Column.read?)
    customChecks := ← fs.withDefault "custom_checks" [] (Node.list? CustomCheck.read?) }

/-- Writes an asset. -/
def write (a : Asset) : Value :=
  .fields [("name", .text a.name.text), ("type", .text a.type),
    ("description", .text a.description), ("sql", .text a.sql), ("tags", .texts a.tags),
    ("upstreams", .texts (a.upstreams.map AssetName.text)),
    ("materialization", .text a.materialization.name),
    ("columns", .list (a.columns.map Column.write)),
    ("custom_checks", .list (a.customChecks.map CustomCheck.write))]

end Asset

end AssetFlow
