import AssetFlow.Pipeline
import AssetFlow.Proofs.Graph.Order

/-!
# Ancestors of assets

The assets of a pipeline read each other by name. `Pipeline.Reads` and `Pipeline.Ancestor` say so
without the graph; the lemmas here tie both to the graph that is built from the pipeline, whose
nodes are the places of the names.

## Main statements

- `Pipeline.mem_ancestors_iff`, `Pipeline.mem_descendants_iff`: what the graph lists
- `Pipeline.order_lists`: the order of the graph holds every asset once, producers first
- `Pipeline.not_ancestor_self`: a pipeline that has a graph has no cycle
-/

namespace AssetFlow

open Relation

/-- Names with the same text are the same. -/
theorem AssetName.eq_of_text_eq {a b : AssetName} (h : a.text = b.text) : a = b := by
  cases a
  cases b
  simpa using h

theorem AssetName.text_beq_iff {a b : AssetName} : (a.text == b.text) = true ↔ a = b :=
  ⟨fun h => AssetName.eq_of_text_eq (beq_iff_eq.mp h), fun h => by simp [h]⟩

namespace Pipeline

/-- An asset of the pipeline is read by another one at once. -/
def Reads (p : Pipeline) (producer consumer : AssetName) : Prop :=
  producer ∈ p.names ∧ ∃ a ∈ p.assets, a.name = consumer ∧ producer ∈ a.upstreams

/-- An asset of the pipeline is read by another one, at once or by way of others. -/
def Ancestor (p : Pipeline) : AssetName → AssetName → Prop :=
  TransGen p.Reads

/-- What reads an asset is an asset of the pipeline. -/
theorem Reads.consumer_mem {p : Pipeline} {u a : AssetName} (h : p.Reads u a) : a ∈ p.names := by
  obtain ⟨-, b, hb, rfl, -⟩ := h
  exact List.mem_map_of_mem hb

/-- What an asset is an ancestor of is an asset of the pipeline. -/
theorem Ancestor.consumer_mem {p : Pipeline} {u a : AssetName} (h : p.Ancestor u a) :
    a ∈ p.names := by
  cases h with
  | single h => exact h.consumer_mem
  | tail _ h => exact h.consumer_mem

/-- An ancestor is an asset of the pipeline. -/
theorem Ancestor.producer_mem {p : Pipeline} {u a : AssetName} (h : p.Ancestor u a) :
    u ∈ p.names := by
  induction h with
  | single h => exact h.1
  | tail _ _ ih => exact ih

end Pipeline

namespace AssetGraph

/-! ### Places of names -/

/-- The place of a name is where it stands. -/
theorem placeIn_eq_some_iff {names : List AssetName} (hnd : names.Nodup) {n : AssetName} {i : Nat} :
    placeIn names n.text = some i ↔ names[i]? = some n := by
  have hplace : ∀ {m : AssetName} {j : Nat}, (m, j) ∈ names.zipIdx.reverse ↔ names[j]? = some m := by
    intro m j
    rw [List.mem_reverse, List.mem_zipIdx_iff_getElem?]
  simp only [placeIn, Option.map_eq_some_iff]
  constructor
  · rintro ⟨⟨m, j⟩, hfind, rfl⟩
    have hbeq := List.find?_some hfind
    exact AssetName.text_beq_iff.mp hbeq ▸ hplace.mp (List.mem_of_find?_eq_some hfind)
  · intro hi
    -- some place is found, and there is no other one as no name occurs twice
    have hsome : (names.zipIdx.reverse.find? fun e => e.1.text == n.text).isSome :=
      List.find?_isSome.mpr ⟨(n, i), hplace.mpr hi, by simp⟩
    obtain ⟨⟨m, j⟩, hfind⟩ := Option.isSome_iff_exists.mp hsome
    have hbeq := List.find?_some hfind
    obtain rfl : m = n := AssetName.text_beq_iff.mp hbeq
    have hj : names[j]? = some m := hplace.mp (List.mem_of_find?_eq_some hfind)
    obtain ⟨hlt, -⟩ := List.getElem?_eq_some_iff.mp hj
    have hij : j = i := (List.getElem?_inj hlt hnd).mp (hj.trans hi.symm)
    exact ⟨(m, j), hfind, hij⟩

/-- A text that is no name has no place. -/
theorem placeIn_eq_none {names : List AssetName} {name : String} (h : ∀ n ∈ names, n.text ≠ name) :
    placeIn names name = none := by
  simp only [placeIn, Option.map_eq_none_iff, List.find?_eq_none]
  rintro ⟨m, j⟩ hm hbeq
  have hm : names[j]? = some m := by
    rwa [List.mem_reverse, List.mem_zipIdx_iff_getElem?] at hm
  exact h m (List.mem_of_getElem? hm) (beq_iff_eq.mp hbeq)

/-! ### Edges -/

theorem mem_edges_link {g : Graph} {s t : Nat} {e : Nat × Nat} :
    e ∈ (g.link s t).edges ↔ e = (s, t) ∨ e ∈ g.edges := by
  simp only [Graph.link]
  split
  · next h =>
    have hm : (s, t) ∈ g.edges := List.contains_iff_mem.mp h
    constructor
    · exact Or.inr
    · rintro (rfl | he)
      · exact hm
      · exact he
  · exact List.mem_cons

/-- Linking a row of nodes to one adds just the edges from these nodes. -/
theorem mem_edges_foldl_link {g : Graph} {sources : List Nat} {t : Nat} {e : Nat × Nat} :
    e ∈ (sources.foldl (fun g s => g.link s t) g).edges ↔
      (e.1 ∈ sources ∧ e.2 = t) ∨ e ∈ g.edges := by
  induction sources generalizing g with
  | nil => simp
  | cons s rest ih =>
    rw [List.foldl_cons, ih, mem_edges_link, List.mem_cons]
    constructor
    · rintro (⟨h, ht⟩ | rfl | h)
      · exact Or.inl ⟨Or.inr h, ht⟩
      · exact Or.inl ⟨Or.inl rfl, rfl⟩
      · exact Or.inr h
    · rintro (⟨h | h, ht⟩ | h)
      · exact Or.inr (Or.inl (Prod.ext h ht))
      · exact Or.inl ⟨h, ht⟩
      · exact Or.inr (Or.inr h)

theorem size_linkAsset (names : List AssetName) (g : Graph) (a : Asset) :
    (linkAsset names g a).size = g.size := by
  have hlink : ∀ (sources : List Nat) (t : Nat) (g : Graph),
      (sources.foldl (fun g s => g.link s t) g).size = g.size := by
    intro sources t
    induction sources with
    | nil => intro g; rfl
    | cons s rest ih =>
      intro g
      rw [List.foldl_cons, ih]
      simp only [Graph.link]
      split <;> rfl
  simp only [linkAsset]
  split
  · rfl
  · exact hlink _ _ _

/-- Linking an asset adds the edges from its upstreams that have a place. -/
theorem mem_edges_linkAsset {names : List AssetName} {g : Graph} {a : Asset} {e : Nat × Nat} :
    e ∈ (linkAsset names g a).edges ↔
      (placeIn names a.name.text = some e.2 ∧ ∃ u ∈ a.upstreams, placeIn names u.text = some e.1) ∨
        e ∈ g.edges := by
  simp only [linkAsset]
  split
  · next h => simp [h]
  · next t h =>
    rw [mem_edges_foldl_link, List.mem_filterMap, h, Option.some.injEq]
    constructor
    · rintro (⟨hs, ht⟩ | he)
      · exact Or.inl ⟨ht.symm, hs⟩
      · exact Or.inr he
    · rintro (⟨ht, hs⟩ | he)
      · exact Or.inl ⟨hs, ht.symm⟩
      · exact Or.inr he

/-- The edges of the graph are those from the upstreams of an asset to this asset. -/
theorem mem_edges_ofAssets {assets : List Asset} {e : Nat × Nat} :
    e ∈ (ofAssets assets).graph.edges ↔
      ∃ a ∈ assets, placeIn (assets.map Asset.name) a.name.text = some e.2 ∧
        ∃ u ∈ a.upstreams, placeIn (assets.map Asset.name) u.text = some e.1 := by
  have hfold : ∀ (names : List AssetName) (row : List Asset) (g : Graph),
      e ∈ (row.foldl (linkAsset names) g).edges ↔
        (∃ a ∈ row, placeIn names a.name.text = some e.2 ∧
          ∃ u ∈ a.upstreams, placeIn names u.text = some e.1) ∨ e ∈ g.edges := by
    intro names row
    induction row with
    | nil => simp
    | cons a rest ih =>
      intro g
      rw [List.foldl_cons, ih, mem_edges_linkAsset]
      rw [List.exists_mem_cons_iff, or_left_comm, or_assoc]
  simp only [ofAssets, hfold, Graph.empty, List.not_mem_nil, or_false]

theorem size_ofAssets (assets : List Asset) : (ofAssets assets).graph.size = assets.length := by
  have hfold : ∀ (names : List AssetName) (row : List Asset) (g : Graph),
      (row.foldl (linkAsset names) g).size = g.size := by
    intro names row
    induction row with
    | nil => intro g; rfl
    | cons a rest ih =>
      intro g
      rw [List.foldl_cons, ih, size_linkAsset]
  simp only [ofAssets, hfold, Graph.empty]

end AssetGraph

namespace Pipeline

variable {p : Pipeline} {g : AssetGraph}

/-- If there is a graph, it is the one of the assets, and it can be sorted. -/
theorem graph_eq (hg : p.graph = .ok g) :
    g = AssetGraph.ofAssets p.assets ∧ ∃ order, g.order = .ok order := by
  simp only [graph, AssetGraph.build] at hg
  cases ho : (AssetGraph.ofAssets p.assets).order with
  | error e =>
    rw [ho] at hg
    cases hg
  | ok order =>
    rw [ho] at hg
    obtain rfl : AssetGraph.ofAssets p.assets = g := Except.ok.inj hg
    exact ⟨rfl, order, ho⟩

/-- The nodes of the graph are the assets of the pipeline, in their order. -/
theorem names_of_graph (hg : p.graph = .ok g) : g.names = p.names := by
  rw [(graph_eq hg).1]
  rfl

theorem size_of_graph (hg : p.graph = .ok g) : g.graph.size = p.names.length := by
  rw [(graph_eq hg).1, AssetGraph.size_ofAssets, names, List.length_map]

/-- There is an edge between two places just if the asset at the second reads the one at the
first. -/
theorem mem_edges_ofAssets_iff {s t : Nat} :
    (s, t) ∈ (AssetGraph.ofAssets p.assets).graph.edges ↔
      ∃ u a, p.names[s]? = some u ∧ p.names[t]? = some a ∧ p.Reads u a := by
  have hplace : ∀ {n : AssetName} {i : Nat},
      AssetGraph.placeIn (p.assets.map Asset.name) n.text = some i ↔ p.names[i]? = some n :=
    AssetGraph.placeIn_eq_some_iff p.unique
  rw [AssetGraph.mem_edges_ofAssets]
  constructor
  · rintro ⟨a, ha, ht, u, hu, hs⟩
    have hs := hplace.mp hs
    exact ⟨u, a.name, hs, hplace.mp ht, List.mem_of_getElem? hs, a, ha, rfl, hu⟩
  · rintro ⟨u, _, hs, ht, -, a, ha, rfl, hu⟩
    exact ⟨a, ha, hplace.mpr ht, u, hu, hplace.mpr hs⟩

/-- The edges of the graph lead from the assets that are read to those that read them. -/
theorem mem_edges_iff (hg : p.graph = .ok g) {s t : Nat} :
    (s, t) ∈ g.graph.edges ↔
      ∃ u a, p.names[s]? = some u ∧ p.names[t]? = some a ∧ p.Reads u a := by
  rw [(graph_eq hg).1]
  exact mem_edges_ofAssets_iff

/-- All edges are between places of assets. -/
theorem bounded_ofAssets (p : Pipeline) : (AssetGraph.ofAssets p.assets).graph.Bounded := by
  rintro ⟨s, t⟩ he
  obtain ⟨u, a, hs, ht, -⟩ := mem_edges_ofAssets_iff.mp he
  rw [AssetGraph.size_ofAssets, ← List.length_map Asset.name]
  exact ⟨(List.getElem?_eq_some_iff.mp hs).1, (List.getElem?_eq_some_iff.mp ht).1⟩

theorem graph_bounded (hg : p.graph = .ok g) : g.graph.Bounded :=
  (graph_eq hg).1 ▸ bounded_ofAssets p

/-- The ways in the graph are the ancestries of the pipeline. -/
theorem transGen_edges_ofAssets_iff {s t : Nat} {u a : AssetName} (hs : p.names[s]? = some u)
    (ht : p.names[t]? = some a) :
    TransGen (fun m n => (m, n) ∈ (AssetGraph.ofAssets p.assets).graph.edges) s t ↔
      p.Ancestor u a := by
  constructor
  · intro h
    induction h generalizing a with
    | single he =>
      obtain ⟨u', a', hu', ha', hreads⟩ := mem_edges_ofAssets_iff.mp he
      obtain rfl := Option.some.inj (hu'.symm.trans hs)
      obtain rfl := Option.some.inj (ha'.symm.trans ht)
      exact .single hreads
    -- the node before the last is the place of some asset, as it is the source of an edge
    | tail _ he ih =>
      obtain ⟨m, a', hm, ha', hreads⟩ := mem_edges_ofAssets_iff.mp he
      obtain rfl := Option.some.inj (ha'.symm.trans ht)
      exact .tail (ih hm) hreads
  · intro h
    induction h generalizing t with
    | single hreads => exact .single (mem_edges_ofAssets_iff.mpr ⟨_, _, hs, ht, hreads⟩)
    | tail hway hreads ih =>
      obtain ⟨m, hm⟩ := List.getElem?_of_mem hreads.1
      exact .tail (ih hm) (mem_edges_ofAssets_iff.mpr ⟨_, _, hm, ht, hreads⟩)

/-- Ways along the edges of the graph are ways along the assets at their ends. -/
theorem transGen_edges_iff (hg : p.graph = .ok g) {s t : Nat} {u a : AssetName}
    (hs : p.names[s]? = some u) (ht : p.names[t]? = some a) :
    TransGen (fun m n => (m, n) ∈ g.graph.edges) s t ↔ p.Ancestor u a := by
  rw [(graph_eq hg).1]
  exact transGen_edges_ofAssets_iff hs ht

/-- The order of a graph comes from a row of its nodes that is sorted by its edges. -/
theorem graph_sorted (hg : p.graph = .ok g) {order : List AssetName}
    (ho : g.order = .ok order) : ∃ row, g.graph.Sorts row ∧ order = g.namesAt row := by
  simp only [AssetGraph.order] at ho
  cases hs : g.graph.sorted with
  | error n =>
    rw [hs] at ho
    cases ho
  | ok row =>
    rw [hs] at ho
    exact ⟨row, Graph.sorted_sorts (graph_bounded hg) hs, (Except.ok.inj ho).symm⟩

/-- A pipeline that has a graph has no cycle. -/
theorem not_ancestor_self (hg : p.graph = .ok g) (a : AssetName) :
    ¬ p.Ancestor a a := by
  intro h
  obtain ⟨-, order, ho⟩ := graph_eq hg
  obtain ⟨row, hrow, -⟩ := graph_sorted hg ho
  obtain ⟨i, hi⟩ := List.getElem?_of_mem h.consumer_mem
  exact hrow.irreflexive (graph_bounded hg) i ((transGen_edges_iff hg hi hi).mpr h)

/-! ### What the graph lists -/

/-- The names at some places are those of the assets that stand there. -/
theorem mem_namesAt {row : List Nat} {n : AssetName} (hg : p.graph = .ok g) :
    n ∈ g.namesAt row ↔ ∃ i ∈ row, p.names[i]? = some n := by
  simp only [AssetGraph.namesAt, AssetGraph.nameAt?, names_of_graph hg, List.mem_filterMap]

/-- The node of an asset is the place where it stands in the pipeline. -/
theorem place?_eq_some_iff (hg : p.graph = .ok g) {n : AssetName} {i : Nat} :
    g.place? n.text = some i ↔ p.names[i]? = some n := by
  rw [AssetGraph.place?, names_of_graph hg]
  exact AssetGraph.placeIn_eq_some_iff p.unique

/-- A text that is the name of no asset has no node. -/
theorem place?_eq_none (hg : p.graph = .ok g) {name : String} (h : ∀ n ∈ p.names, n.text ≠ name) :
    g.place? name = none := by
  rw [AssetGraph.place?, names_of_graph hg]
  exact AssetGraph.placeIn_eq_none h

theorem place?_eq_none_of_notMem (hg : p.graph = .ok g) {n : AssetName} (h : n ∉ p.names) :
    g.place? n.text = none :=
  place?_eq_none hg fun _ hm heq => h (AssetName.eq_of_text_eq heq ▸ hm)

/-- Different nodes have different names, as no name of the pipeline occurs twice. -/
theorem nodup_namesAt (hg : p.graph = .ok g) {row : List Nat} (hrow : row.Nodup) :
    (g.namesAt row).Nodup := by
  rw [AssetGraph.namesAt, List.nodup_iff_pairwise_ne, List.pairwise_filterMap]
  refine hrow.imp ?_
  intro i j hij n hn m hm hnm
  simp only [AssetGraph.nameAt?, names_of_graph hg] at hn hm
  subst hnm
  exact hij ((List.getElem?_inj (List.getElem?_eq_some_iff.mp hn).1 p.unique).mp (hn.trans hm.symm))

/-- What a breadth first search along the edges, or against them, lists of the assets. -/
theorem mem_namesAt_reachable (hg : p.graph = .ok g) {next : Nat → List Nat}
    {i : Nat} (hi : i < p.names.length) (hnext : ∀ n, ∀ m ∈ next n, m < p.names.length)
    (n : AssetName) :
    n ∈ g.namesAt (g.graph.reachable next i) ↔
      ∃ m, p.names[m]? = some n ∧ m ≠ i ∧ ReflTransGen (Graph.Follows next) i m := by
  rw [← size_of_graph hg] at hi hnext
  rw [mem_namesAt hg]
  constructor
  · rintro ⟨m, hm, hn⟩
    exact ⟨m, hn, (Graph.mem_reachable_iff hi (fun n _ => hnext n) m).mp hm⟩
  · rintro ⟨m, hn, hm⟩
    exact ⟨m, (Graph.mem_reachable_iff hi (fun n _ => hnext n) m).mpr hm, hn⟩

/-- A way that leads elsewhere is not empty. -/
theorem ne_and_reflTransGen_iff {α : Type} {r : α → α → Prop} (hr : ∀ a, ¬ TransGen r a a) {a b : α} :
    (b ≠ a ∧ ReflTransGen r a b) ↔ TransGen r a b := by
  rw [reflTransGen_iff_eq_or_transGen]
  constructor
  · rintro ⟨hne, h⟩
    exact h.resolve_left hne
  · intro h
    exact ⟨fun he => hr a (he ▸ h), Or.inr h⟩

/-- No way in a graph that was built leads from a node back to itself. -/
theorem edges_irreflexive (hg : p.graph = .ok g) (n : Nat) :
    ¬ TransGen (fun a b => (a, b) ∈ g.graph.edges) n n := by
  obtain ⟨-, order, ho⟩ := graph_eq hg
  obtain ⟨row, hrow, -⟩ := graph_sorted hg ho
  exact hrow.irreflexive (graph_bounded hg) n

/-- **Descendants** are the assets that an asset is an ancestor of. -/
theorem mem_descendants_iff (hg : p.graph = .ok g) {u a : AssetName} :
    a ∈ g.descendants u.text ↔ p.Ancestor u a := by
  by_cases hu : u ∈ p.names
  · obtain ⟨i, hi⟩ := List.getElem?_of_mem hu
    have hfollows : Graph.Follows g.graph.successors = fun m n => (m, n) ∈ g.graph.edges := by
      funext m n
      exact propext Graph.mem_successors
    have hbound : ∀ n, ∀ m ∈ g.graph.successors n, m < p.names.length := by
      intro n m hm
      rw [← size_of_graph hg]
      exact (graph_bounded hg _ (Graph.mem_successors.mp hm)).2
    rw [AssetGraph.descendants, (place?_eq_some_iff hg).mpr hi]
    simp only [mem_namesAt_reachable hg (List.getElem?_eq_some_iff.mp hi).1 hbound, hfollows,
      ne_and_reflTransGen_iff (edges_irreflexive hg)]
    constructor
    · rintro ⟨m, hm, hway⟩
      exact (transGen_edges_iff hg hi hm).mp hway
    · intro h
      obtain ⟨m, hm⟩ := List.getElem?_of_mem h.consumer_mem
      exact ⟨m, hm, (transGen_edges_iff hg hi hm).mpr h⟩
  · have hno : ¬ p.Ancestor u a := by
      intro h
      obtain ⟨b, hreads, -⟩ := TransGen.head'_iff.mp h
      exact hu hreads.1
    simp [AssetGraph.descendants, place?_eq_none_of_notMem hg hu, hno]

/-- **Ancestors** as the graph finds them are those of the pipeline. -/
theorem mem_ancestors_iff (hg : p.graph = .ok g) {u a : AssetName} :
    u ∈ g.ancestors a.text ↔ p.Ancestor u a := by
  by_cases ha : a ∈ p.names
  · obtain ⟨i, hi⟩ := List.getElem?_of_mem ha
    -- the search goes against the edges, so the way that it finds is turned around
    have hfollows : Graph.Follows g.graph.predecessors =
        Function.swap fun m n => (m, n) ∈ g.graph.edges := by
      funext m n
      exact propext Graph.mem_predecessors
    have hbound : ∀ n, ∀ m ∈ g.graph.predecessors n, m < p.names.length := by
      intro n m hm
      rw [← size_of_graph hg]
      exact (graph_bounded hg _ (Graph.mem_predecessors.mp hm)).1
    have hirr : ∀ n, ¬ TransGen (Function.swap fun a b => (a, b) ∈ g.graph.edges) n n := by
      intro n h
      exact edges_irreflexive hg n (transGen_swap.mp h)
    rw [AssetGraph.ancestors, (place?_eq_some_iff hg).mpr hi]
    simp only [mem_namesAt_reachable hg (List.getElem?_eq_some_iff.mp hi).1 hbound, hfollows,
      ne_and_reflTransGen_iff hirr]
    constructor
    · rintro ⟨m, hm, hway⟩
      exact (transGen_edges_iff hg hm hi).mp (transGen_swap.mp hway)
    · intro h
      obtain ⟨b, hreads, -⟩ := TransGen.head'_iff.mp h
      obtain ⟨m, hm⟩ := List.getElem?_of_mem hreads.1
      exact ⟨m, hm, transGen_swap.mpr ((transGen_edges_iff hg hm hi).mpr h)⟩
  · have hno : ¬ p.Ancestor u a := fun h => ha h.consumer_mem
    simp [AssetGraph.ancestors, place?_eq_none_of_notMem hg ha, hno]

/-- A row holds every asset of the pipeline once, each after all assets that it reads. -/
structure ListsInOrder (p : Pipeline) (order : List AssetName) : Prop where
  nodup : order.Nodup
  mem_iff : ∀ n, n ∈ order ↔ n ∈ p.names
  before : ∀ pre a post, order = pre ++ a :: post → ∀ u, p.Reads u a → u ∈ pre

/-- **The order of a graph** lists each asset once, after all that it reads. -/
theorem order_lists (hg : p.graph = .ok g) {order : List AssetName}
    (ho : g.order = .ok order) : p.ListsInOrder order := by
  obtain ⟨row, hrow, rfl⟩ := graph_sorted hg ho
  have hplace : ∀ i ∈ row, ∃ n, p.names[i]? = some n := by
    intro i hi
    have hlt : i < p.names.length := size_of_graph hg ▸ (hrow.mem_iff i).mp hi
    exact ⟨p.names[i], List.getElem?_eq_getElem hlt⟩
  refine ⟨nodup_namesAt hg hrow.nodup, fun n => ?_, ?_⟩
  · rw [mem_namesAt hg]
    constructor
    · rintro ⟨i, -, hi⟩
      exact List.mem_of_getElem? hi
    · intro hn
      obtain ⟨i, hi⟩ := List.getElem?_of_mem hn
      have hlt := (List.getElem?_eq_some_iff.mp hi).1
      exact ⟨i, (hrow.mem_iff i).mpr (size_of_graph hg ▸ hlt), hi⟩
  · intro pre a post hsplit u hreads
    obtain ⟨rowPre, rest, rfl, rfl, hrest⟩ := List.filterMap_eq_append_iff.mp hsplit
    obtain ⟨skipped, t, rowPost, rfl, hskipped, ht, -⟩ := List.filterMap_eq_cons_iff.mp hrest
    -- every node of the row has a name, so that no node is skipped
    have hnone : skipped = [] := by
      rw [List.eq_nil_iff_forall_not_mem]
      intro i hi
      obtain ⟨n, hn⟩ := hplace i (by simp [hi])
      have := hskipped i hi
      simp [AssetGraph.nameAt?, names_of_graph hg, hn] at this
    subst hnone
    simp only [AssetGraph.nameAt?, names_of_graph hg] at ht
    obtain ⟨s, hs⟩ := List.getElem?_of_mem hreads.1
    have hedge := (mem_edges_iff hg).mpr ⟨u, a, hs, ht, hreads⟩
    exact (mem_namesAt hg).mpr ⟨s, hrow.before rowPre t rowPost (by simp) s hedge, hs⟩

/-- An ancestor stands before its descendant, not only an asset that is read directly. -/
theorem ListsInOrder.before_of_ancestor {order : List AssetName} (h : p.ListsInOrder order)
    {u a : AssetName} (hu : p.Ancestor u a) (pre post : List AssetName)
    (hsplit : order = pre ++ a :: post) : u ∈ pre := by
  induction hu generalizing pre post with
  | single hreads => exact h.before pre _ post hsplit _ hreads
  | tail _ hreads ih =>
    obtain ⟨pre', post', rfl⟩ := List.append_of_mem (h.before pre _ post hsplit _ hreads)
    rw [List.append_assoc, List.cons_append] at hsplit
    exact List.mem_append_left _ (ih pre' _ hsplit)

end Pipeline

end AssetFlow
