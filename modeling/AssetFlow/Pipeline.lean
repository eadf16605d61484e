import AssetFlow.Asset.Codec
import AssetFlow.Digest
import AssetFlow.Files.Path
import AssetFlow.Graph.Assets
import AssetFlow.Text.Blank

/-!
# Pipelines

A pipeline is a row of assets with different names, and what its definition says about all of them.

## Main definitions

- `Pipeline.ofAssets`: a pipeline, unless a name occurs twice.
- `Pipeline.shape`, `Pipeline.fingerprint`: the names and edges of a pipeline, and a digest of them.
- `CoreError`: why a pipeline cannot be used.
-/

namespace AssetFlow

open Document

/-- Why a pipeline or a run configuration cannot be used. -/
inductive CoreError
  | pipelineNotFound (path : String)
  | definitionFault (path : String)
  | configInvalid (message : String)
  /-- The assets on the cycle, the first of them again at the end. -/
  | cycle (names : List AssetName)
  | duplicateAsset (name : String)
  | emptyName (context : String)
  | invalidDate (value : String)
  /-- The day after the last day is needed. -/
  | dateOverflow
  | fileFault
  | fileFaultAt (path : String)
  | documentFault
  deriving DecidableEq, Repr

/-- The format of dates as it is shown to the user. -/
def dateFormat : String := "%Y-%m-%d %H:%M:%S%.6f"

namespace CoreError

/-- The message of an error, where `fault` stands for the wording of a fault found in a file. -/
def message (fault : CoreError → String) : CoreError → String
  | pipelineNotFound path => s!"[E001] No pipeline.yml or pipeline.yaml under {path}"
  | definitionFault path =>
    s!"[E002] Invalid definition in {path}: " ++ fault (.definitionFault path)
  | configInvalid m => s!"[E003] Invalid run configuration: {m}"
  | cycle names =>
    "[E004] Assets depend on each other in a cycle: " ++ showWay (names.map AssetName.text)
  | duplicateAsset name => s!"[E005] Asset '{name}' is defined more than once"
  | emptyName context => s!"[E006] Empty name in {context}"
  | invalidDate value => s!"[E007] Cannot read date '{value}', expected {dateFormat}"
  | dateOverflow => "The day after the last day is no date"
  | fileFault => "[E008] " ++ fault .fileFault
  | fileFaultAt path => s!"[E009] Cannot read {path}: " ++ fault (.fileFaultAt path)
  | documentFault => "[E011] " ++ fault .documentFault

/-- The message of an error, followed by the fault behind it if the error was caused by one. -/
def account (fault : CoreError → String) (e : CoreError) : String :=
  match e with
  | fileFault | fileFaultAt _ | documentFault => e.message fault ++ ": " ++ fault e
  | _ => e.message fault

end CoreError

/-- What the definition of a pipeline says. -/
structure PipelineConfig where
  /-- The name, which also names the folder of run states. -/
  name : String
  /-- The type of assets that do not have one. -/
  defaultType : String := "duckdb.sql"
  /-- The file of the database, as seen from the root. -/
  database : Option String := none
  /-- Where the data begins. -/
  startDate : Option String := none
  /-- The number of workers of runs that do not set it. -/
  defaultParallelism : Option Nat := none
  deriving DecidableEq, Repr, Inhabited

namespace PipelineConfig

/-- Reads what a definition says. -/
def read? (n : Node) : Option PipelineConfig := do
  let fs ← n.fields? ["name", "default_type", "database", "start_date", "default_parallelism"] false
  return {
    name := ← fs.required "name" Node.text?
    defaultType := ← fs.withDefault "default_type" "duckdb.sql" Node.text?
    database := ← fs.optional "database" Node.text?
    startDate := ← fs.optional "start_date" Node.text?
    defaultParallelism := ← fs.optional "default_parallelism" Node.unsigned? }

/-- Writes what a definition says. -/
def write (c : PipelineConfig) : Value :=
  let given (key : String) (v : Option Value) : List (String × Value) :=
    match v with
    | some v => [(key, v)]
    | none => []
  .fields <| [("name", .text c.name), ("default_type", .text c.defaultType)] ++
    given "database" (c.database.map .text) ++
    given "start_date" (c.startDate.map .text) ++
    given "default_parallelism" (c.defaultParallelism.map (.int ·))

end PipelineConfig

/-- Assets of different names, with what their definition says about all of them. -/
structure Pipeline where
  config : PipelineConfig
  /-- The folder of the pipeline. -/
  root : String
  /-- The assets in the order in which they were found. -/
  assets : List Asset
  unique : (assets.map Asset.name).Nodup
  deriving Repr

namespace Pipeline

/-- The first name that occurred before. -/
def firstRepeated : List AssetName → List AssetName → Option AssetName
  | _, [] => none
  | seen, n :: rest => if seen.contains n then some n else firstRepeated (n :: seen) rest

theorem nodup_of_firstRepeated {seen names : List AssetName}
    (h : firstRepeated seen names = none) : names.Nodup ∧ ∀ n ∈ names, n ∉ seen := by
  induction names generalizing seen with
  | nil => simp
  | cons n rest ih =>
    simp only [firstRepeated] at h
    split at h
    · cases h
    · next hn =>
      obtain ⟨hnd, hseen⟩ := ih h
      refine ⟨List.nodup_cons.mpr ⟨fun hmem => hseen n hmem (List.mem_cons_self ..), hnd⟩, ?_⟩
      intro m hm
      rcases List.mem_cons.mp hm with rfl | hm
      · exact fun hmem => hn (List.contains_iff_mem.mpr hmem)
      · exact fun hmem => hseen m hm (List.mem_cons_of_mem n hmem)

/-- The pipeline of some assets, unless a name occurs twice. -/
def ofAssets (config : PipelineConfig) (root : String) (assets : List Asset) :
    Except CoreError Pipeline :=
  match h : firstRepeated [] (assets.map Asset.name) with
  | some n => .error (.duplicateAsset n.text)
  | none => .ok ⟨config, root, assets, (nodup_of_firstRepeated h).1⟩

/-- The asset with exactly this name. -/
def asset? (p : Pipeline) (name : String) : Option Asset :=
  p.assets.find? (·.name.text == name)

/-- The place of a name. -/
def place? (p : Pipeline) (name : String) : Option Nat :=
  p.assets.findIdx? (·.name.text == name)

/-- The names of the assets. -/
def names (p : Pipeline) : List AssetName :=
  p.assets.map Asset.name

/-- Changes the assets but for their names. -/
def mapAssets (p : Pipeline) (f : Asset → Asset) : Pipeline :=
  { p with
    assets := p.assets.map fun a => { f a with name := a.name }
    unique := by
      rw [List.map_map]
      exact p.unique }

/-- Changes the asset with exactly this name but for the name. -/
def updateAsset (p : Pipeline) (name : String) (f : Asset → Asset) : Pipeline :=
  p.mapAssets fun a => if a.name.text == name then f a else a

/-- The graph of the assets, if it has no cycle. -/
def graph (p : Pipeline) : Except CoreError AssetGraph :=
  (AssetGraph.build p.assets).mapError .cycle

/-- The file of the database. -/
def databasePath (p : Pipeline) : String :=
  match p.config.database with
  | some db => Path.join p.root db
  | none => Path.join p.root (p.config.name ++ ".duckdb")

/-! ### Fingerprints -/

/-- Names in ascending order, each once. -/
def sortedNames (names : List AssetName) : List String :=
  ((names.map AssetName.text).eraseDups).mergeSort fun a b => decide (a ≤ b)

/-- The names of the assets in ascending order, each with its upstreams in ascending order. -/
def shape (p : Pipeline) : List (String × List String) :=
  (p.assets.map fun a => (a.name.text, sortedNames a.upstreams)).mergeSort
    fun a b => decide (a.1 ≤ b.1)

/-- A number in eight bytes, the lowest first. -/
def lengthBytes (n : Nat) : List UInt8 :=
  (List.range 8).map fun i => UInt8.ofNat (n / Nat.pow 256 i)

/-- A text after its length in bytes. -/
def field (s : String) : List UInt8 :=
  let bytes := s.toUTF8.toList
  lengthBytes bytes.length ++ bytes

/-- The bytes that stand for one asset: its name, the number of its upstreams, and them. -/
def entryBytes (entry : String × List String) : List UInt8 :=
  field entry.1 ++ field (toString entry.2.length) ++ entry.2.flatMap field

/-- The bytes that stand for the shape. Since every text comes after its length, different shapes
have different bytes. -/
def shapeBytes (p : Pipeline) : List UInt8 :=
  p.shape.flatMap entryBytes

/-- The fingerprint of the shape. Runs of pipelines with the same fingerprint can continue each
other. -/
def fingerprint (p : Pipeline) : String :=
  Digest.hex (Digest.sha256 p.shapeBytes)

end Pipeline

end AssetFlow
