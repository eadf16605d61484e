import AssetFlow.Asset
import AssetFlow.Graph

/-!
# The graph of a pipeline

The edges lead from an asset to the assets that read it. Upstreams that are no assets of the
pipeline add no edge.

## Main definitions

- `AssetGraph.build`: the graph of a list of assets, if it has no cycle.
- `AssetGraph.order`: the assets, producers first.
- `AssetGraph.ancestors`, `AssetGraph.descendants`
-/

namespace AssetFlow

/-- The names of assets and the edges between them by place. -/
structure AssetGraph where
  names : List AssetName
  graph : Graph
  deriving Repr

namespace AssetGraph

/-- The place of a name; of several equal names the last one counts. -/
def placeIn (names : List AssetName) (name : String) : Option Nat :=
  (names.zipIdx.reverse.find? fun (n, _) => n.text == name).map (·.2)

/-- The place of a name. -/
def place? (g : AssetGraph) (name : String) : Option Nat :=
  placeIn g.names name

/-- The edges to one asset, added to a graph. -/
def linkAsset (names : List AssetName) (g : Graph) (a : Asset) : Graph :=
  match placeIn names a.name.text with
  | none => g
  | some consumer =>
    (a.upstreams.filterMap fun u => placeIn names u.text).foldl
      (fun g producer => g.link producer consumer) g

/-- The graph of a list of assets, whether it has cycles or not. -/
def ofAssets (assets : List Asset) : AssetGraph :=
  let names := assets.map Asset.name
  ⟨names, assets.foldl (linkAsset names) (Graph.empty assets.length)⟩

/-- The name at a place. -/
def nameAt? (g : AssetGraph) (place : Nat) : Option AssetName :=
  g.names[place]?

/-- The names at places. -/
def namesAt (g : AssetGraph) (places : List Nat) : List AssetName :=
  places.filterMap g.nameAt?

/-- The assets, producers first; the fault is a cycle that starts and ends with one asset. -/
def order (g : AssetGraph) : Except (List AssetName) (List AssetName) :=
  match g.graph.sorted with
  | .ok places => .ok (g.namesAt places)
  | .error node => .error (g.namesAt (g.graph.cycleThrough node))

/-- The graph of a list of assets, if it has no cycle. -/
def build (assets : List Asset) : Except (List AssetName) AssetGraph := do
  let g := ofAssets assets
  let _ ← g.order
  return g

/-- The assets that a name is read from at once. -/
def dependencies (g : AssetGraph) (name : String) : List AssetName :=
  match g.place? name with
  | some p => g.namesAt (g.graph.predecessors p)
  | none => []

/-- The assets that read a name at once. -/
def dependents (g : AssetGraph) (name : String) : List AssetName :=
  match g.place? name with
  | some p => g.namesAt (g.graph.successors p)
  | none => []

/-- The assets that a name is read from, at once or not, nearest first. -/
def ancestors (g : AssetGraph) (name : String) : List AssetName :=
  match g.place? name with
  | some p => g.namesAt (g.graph.reachable g.graph.predecessors p)
  | none => []

/-- The assets that read a name, at once or not, nearest first. -/
def descendants (g : AssetGraph) (name : String) : List AssetName :=
  match g.place? name with
  | some p => g.namesAt (g.graph.reachable g.graph.successors p)
  | none => []

/-- Whether the name is that of an asset. -/
def contains (g : AssetGraph) (name : String) : Bool :=
  (g.place? name).isSome

/-- The number of different names. -/
def size (g : AssetGraph) : Nat :=
  g.names.eraseDups.length

end AssetGraph

/-- A way through assets as it is shown to the user. -/
def showWay (names : List String) : String :=
  " -> ".intercalate names

end AssetFlow
