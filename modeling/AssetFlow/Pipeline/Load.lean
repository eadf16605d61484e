import AssetFlow.Document.Yaml.Parser
import AssetFlow.Files.Tree
import AssetFlow.Pipeline

/-!
# Pipelines in folders

A pipeline is a folder with a definition, `pipeline.yml`, and a folder `assets`. Each file with SQL
or a script below it is an asset, which a definition beside the file may describe.

## Main definitions

- `AssetDefinition`: what a definition beside a file says.
- `Pipeline.load`: the pipeline in a folder.
-/

namespace AssetFlow

open Document

/-- What a definition beside the file of an asset says. -/
structure AssetDefinition where
  name : Option String := none
  type : Option String := none
  description : String := ""
  tags : List String := []
  depends : List String := []
  materialization : Materialization := .table
  columns : List Column := []
  customChecks : List CustomCheck := []

/-- Reads a definition; it must not have keys that are not known. -/
def AssetDefinition.read? (n : Node) : Option AssetDefinition := do
  let fs ← n.fields? ["name", "type", "description", "tags", "depends", "materialization",
    "columns", "custom_checks"] true
  return {
    name := ← fs.optional "name" Node.text?
    type := ← fs.optional "type" Node.text?
    description := ← fs.withDefault "description" "" Node.text?
    tags := ← fs.withDefault "tags" [] (Node.list? Node.text?)
    depends := ← fs.withDefault "depends" [] (Node.list? Node.text?)
    materialization := ← fs.withDefault "materialization" .table Materialization.read?
    columns := ← fs.withDefault "columns" [] (Node.list? Column.read?)
    customChecks := ← fs.withDefault "custom_checks" [] (Node.list? CustomCheck.read?) }

namespace Pipeline

/-- The text of a file. -/
def readText (t : Tree) (path : String) : Except CoreError String :=
  match t.read? path with
  | some text => .ok text
  | none => .error (.fileFaultAt path)

/-- What a file of definitions says. -/
def readDefinition (t : Tree) (path : String) (read : Node → Option α) : Except CoreError α := do
  match (Yaml.read (← readText t path)).bind read with
  | some a => return a
  | none => throw (.definitionFault path)

/-- Whether the file of a path is an asset. -/
def isAssetFile (path : String) : Bool :=
  Path.extension? path == some "sql" || Path.extension? path == some "py"

/-- The files of assets below a folder, in the order of their paths. -/
def assetFiles (t : Tree) (folder : String) : List String :=
  let p := Tree.place folder
  let files := t.entries.filterMap fun (q, e) =>
    match e with
    | .file _ =>
      if q.take p.length == p && q.length > p.length then
        some ((q.drop p.length).foldl Path.join folder)
      else none
    | .folder => none
  (files.filter isAssetFile).mergeSort fun a b => !Path.before b a

/-- The first of some paths that is a file. -/
def firstFile (t : Tree) (paths : List String) : Option String :=
  paths.find? t.isFile

/-- The upstreams that a definition lists. -/
def addDepends (a : Asset) (depends : List String) : Except CoreError Asset :=
  depends.foldlM
    (fun b d => match AssetName.ofText? d with
      | some n => .ok (b.addUpstream n)
      | none => .error (.emptyName s!"depends of {a.name}"))
    a

/-- The asset that a file and its definition describe. -/
def describe (path body : String) (d : AssetDefinition) (config : PipelineConfig) :
    Except CoreError Asset := do
  let some name := AssetName.ofText? (d.name.getD (Path.stem path))
    | throw (.emptyName s!"asset name for {path}")
  let type := match d.type with
    | some type => type
    | none => if Path.extension? path == some "py" then "python" else config.defaultType
  addDepends
    { name
      type
      sql := body
      description := d.description
      tags := d.tags
      materialization := d.materialization
      columns := d.columns
      customChecks := d.customChecks
      path := some path }
    d.depends

/-- The asset of a file. -/
def loadAsset (t : Tree) (config : PipelineConfig) (path : String) : Except CoreError Asset := do
  let body ← readText t path
  let definition ← match firstFile t (["yml", "yaml"].map (Path.withExtension path)) with
    | some file => readDefinition t file AssetDefinition.read?
    | none => pure {}
  describe path body definition config

/-- The pipeline in a folder; `here` is the folder that the path is seen from. -/
def load (t : Tree) (here path : String) : Except CoreError Pipeline := do
  let root := Path.join here path
  let some file := firstFile t (["pipeline.yml", "pipeline.yaml"].map (Path.join root))
    | throw (.pipelineNotFound root)
  let config ← readDefinition t file PipelineConfig.read?
  if (Text.trim config.name).isEmpty then throw (.emptyName file)
  let folder := Path.join root "assets"
  let files := if t.isFolder folder then assetFiles t folder else []
  let assets ← files.mapM (loadAsset t config)
  ofAssets config root assets

end Pipeline

end AssetFlow
