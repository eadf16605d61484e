import AssetFlow.Proofs.Graph.Acyclic

/-!
# Relatives of assets

What the graph of a pipeline lists for any text, be it the name of an asset or not: the assets that
the named asset is read from, and those that are read from it. The two say the same about every pair
of names, and the ancestors of a name are what it is read from at once, with their ancestors.

## Main statements

- `Pipeline.mem_dependencies_iff`: the assets that a name is read from at once
- `Pipeline.relatives_exact`: the ancestors and descendants of a name
-/

namespace AssetFlow.Pipeline

open Relation

variable {p : Pipeline} {g : AssetGraph} {name : String}

/-- A text is the name of an asset of the pipeline, or nothing is known by it. -/
theorem exists_name_or_unknown (p : Pipeline) (name : String) :
    (∃ n ∈ p.names, n.text = name) ∨ ∀ n ∈ p.names, n.text ≠ name := by
  by_cases h : ∃ n ∈ p.names, n.text = name
  · exact .inl h
  · exact .inr fun n hn heq => h ⟨n, hn, heq⟩

/-! ### Names that are no assets -/

/-- Names that no asset has are without ancestors. -/
theorem ancestors_of_unknown (hg : p.graph = .ok g) (h : ∀ n ∈ p.names, n.text ≠ name) :
    g.ancestors name = [] := by
  rw [AssetGraph.ancestors, place?_eq_none hg h]

/-- Names that no asset has are without descendants. -/
theorem descendants_of_unknown (hg : p.graph = .ok g) (h : ∀ n ∈ p.names, n.text ≠ name) :
    g.descendants name = [] := by
  rw [AssetGraph.descendants, place?_eq_none hg h]

theorem dependencies_of_unknown (hg : p.graph = .ok g) (h : ∀ n ∈ p.names, n.text ≠ name) :
    g.dependencies name = [] := by
  rw [AssetGraph.dependencies, place?_eq_none hg h]

/-! ### Members -/

theorem mem_ancestors_text_iff (hg : p.graph = .ok g) {u : AssetName} :
    u ∈ g.ancestors name ↔ ∃ a, a.text = name ∧ p.Ancestor u a := by
  rcases exists_name_or_unknown p name with ⟨n, -, rfl⟩ | hunknown
  · rw [mem_ancestors_iff hg]
    constructor
    · exact fun h => ⟨n, rfl, h⟩
    · rintro ⟨a, heq, h⟩
      exact AssetName.eq_of_text_eq heq ▸ h
  · rw [ancestors_of_unknown hg hunknown]
    simp only [List.not_mem_nil, false_iff]
    rintro ⟨a, heq, h⟩
    exact hunknown a h.consumer_mem heq

theorem mem_descendants_text_iff (hg : p.graph = .ok g) {a : AssetName} :
    a ∈ g.descendants name ↔ ∃ u, u.text = name ∧ p.Ancestor u a := by
  rcases exists_name_or_unknown p name with ⟨n, -, rfl⟩ | hunknown
  · rw [mem_descendants_iff hg]
    constructor
    · exact fun h => ⟨n, rfl, h⟩
    · rintro ⟨u, heq, h⟩
      exact AssetName.eq_of_text_eq heq ▸ h
  · rw [descendants_of_unknown hg hunknown]
    simp only [List.not_mem_nil, false_iff]
    rintro ⟨u, heq, h⟩
    exact hunknown u h.producer_mem heq

/-- The assets that a name is read from at once. -/
theorem mem_dependencies_iff (hg : p.graph = .ok g) {u : AssetName} :
    u ∈ g.dependencies name ↔ ∃ a, a.text = name ∧ p.Reads u a := by
  rcases exists_name_or_unknown p name with ⟨n, hn, rfl⟩ | hunknown
  · obtain ⟨i, hi⟩ := List.getElem?_of_mem hn
    rw [AssetGraph.dependencies, (place?_eq_some_iff hg).mpr hi]
    simp only [mem_namesAt hg, Graph.mem_predecessors, mem_edges_iff hg]
    constructor
    · rintro ⟨s, ⟨v, a, hv, ha, hreads⟩, hs⟩
      obtain rfl := Option.some.inj (hv.symm.trans hs)
      obtain rfl := Option.some.inj (ha.symm.trans hi)
      exact ⟨_, rfl, hreads⟩
    · rintro ⟨a, heq, hreads⟩
      obtain rfl := AssetName.eq_of_text_eq heq
      obtain ⟨s, hs⟩ := List.getElem?_of_mem hreads.1
      exact ⟨s, ⟨u, a, hs, hi, hreads⟩, hs⟩
  · rw [dependencies_of_unknown hg hunknown]
    simp only [List.not_mem_nil, false_iff]
    rintro ⟨a, heq, hreads⟩
    exact hunknown a hreads.consumer_mem heq

theorem nodup_ancestors (hg : p.graph = .ok g) : (g.ancestors name).Nodup := by
  rw [AssetGraph.ancestors]
  split
  · exact nodup_namesAt hg (Graph.nodup_reachable ..)
  · exact List.nodup_nil

theorem nodup_descendants (hg : p.graph = .ok g) : (g.descendants name).Nodup := by
  rw [AssetGraph.descendants]
  split
  · exact nodup_namesAt hg (Graph.nodup_reachable ..)
  · exact List.nodup_nil

/-- Whatever is an ancestor is read at once, or is an ancestor of what is read at once. -/
theorem mem_ancestors_iff_dependencies (hg : p.graph = .ok g) {u : AssetName} :
    u ∈ g.ancestors name ↔
      u ∈ g.dependencies name ∨ ∃ d ∈ g.dependencies name, u ∈ g.ancestors d.text := by
  simp only [mem_ancestors_text_iff hg, mem_dependencies_iff hg]
  constructor
  · rintro ⟨a, heq, hway⟩
    rcases hway with hreads | ⟨hway, hreads⟩
    · exact .inl ⟨a, heq, hreads⟩
    · exact .inr ⟨_, ⟨a, heq, hreads⟩, _, rfl, hway⟩
  · rintro (⟨a, heq, hreads⟩ | ⟨d, ⟨a, heq, hreads⟩, d', heq', hway⟩)
    · exact ⟨a, heq, .single hreads⟩
    · obtain rfl := AssetName.eq_of_text_eq heq'
      exact ⟨a, heq, .tail hway hreads⟩

/-- **Ancestors and descendants are exact and dual.** A pipeline without cycles has a graph. It
lists for each name, without repetition, the assets from which a way leads to the name, and those to
which a way leads from it. The name itself is not among them, nothing is listed for a name that is
no asset, a name is an ancestor of a second one just if that is a descendant of the first, and the
ancestors are what a name is read from at once together with their ancestors. -/
theorem relatives_exact (hacyclic : ∀ a, ¬ p.Ancestor a a) :
    ∃ g, p.graph = .ok g ∧ ∀ name : String,
      ((g.ancestors name).Nodup ∧
        ∀ u, u ∈ g.ancestors name ↔ ∃ a, a.text = name ∧ p.Ancestor u a) ∧
      ((g.descendants name).Nodup ∧
        ∀ a, a ∈ g.descendants name ↔ ∃ u, u.text = name ∧ p.Ancestor u a) ∧
      (name ∉ (g.ancestors name).map AssetName.text ∧
        name ∉ (g.descendants name).map AssetName.text) ∧
      ((∀ n ∈ p.names, n.text ≠ name) → g.ancestors name = [] ∧ g.descendants name = []) ∧
      (∀ other : String, other ∈ (g.ancestors name).map AssetName.text ↔
        name ∈ (g.descendants other).map AssetName.text) ∧
      ∀ u, u ∈ g.ancestors name ↔
        u ∈ g.dependencies name ∨ ∃ d ∈ g.dependencies name, u ∈ g.ancestors d.text := by
  obtain ⟨g, hg⟩ := exists_graph hacyclic
  refine ⟨g, hg, fun name => ⟨⟨nodup_ancestors hg, fun u => mem_ancestors_text_iff hg⟩,
    ⟨nodup_descendants hg, fun a => mem_descendants_text_iff hg⟩, ⟨?_, ?_⟩, fun hunknown => ?_,
    fun other => ?_, fun u => mem_ancestors_iff_dependencies hg⟩⟩
  · rw [List.mem_map]
    rintro ⟨u, hu, htext⟩
    obtain ⟨a, heq, hway⟩ := (mem_ancestors_text_iff hg).mp hu
    obtain rfl := AssetName.eq_of_text_eq (heq.trans htext.symm)
    exact hacyclic _ hway
  · rw [List.mem_map]
    rintro ⟨a, ha, htext⟩
    obtain ⟨u, heq, hway⟩ := (mem_descendants_text_iff hg).mp ha
    obtain rfl := AssetName.eq_of_text_eq (heq.trans htext.symm)
    exact hacyclic _ hway
  · exact ⟨ancestors_of_unknown hg hunknown, descendants_of_unknown hg hunknown⟩
  · simp only [List.mem_map, mem_ancestors_text_iff hg, mem_descendants_text_iff hg]
    constructor
    · rintro ⟨u, ⟨a, ha, hway⟩, hu⟩
      exact ⟨a, ⟨u, hu, hway⟩, ha⟩
    · rintro ⟨a, ⟨u, hu, hway⟩, ha⟩
      exact ⟨u, ⟨a, ha, hway⟩, hu⟩

/-- The customers are an ancestor of the sales by way of the invoices as well, and are listed
once. -/
theorem sales_relatives : ∃ g, salesPipeline.graph = .ok g ∧
    (g.ancestors "sales").Nodup ∧
    (g.ancestors "sales").map AssetName.text = ["customers", "invoices"] ∧
    "sales" ∈ (g.descendants "customers").map AssetName.text ∧
    g.ancestors "raw.rates" = [] := by
  have hg : salesPipeline.graph = .ok (AssetGraph.ofAssets salesPipeline.assets) := rfl
  obtain ⟨g, hgraph, hrelatives⟩ := relatives_exact (not_ancestor_self hg)
  obtain rfl := Except.ok.inj (hgraph.symm.trans hg)
  obtain ⟨⟨hnodup, -⟩, -, -, -, hdual, -⟩ := hrelatives "sales"
  obtain ⟨-, -, -, hunknown, -⟩ := hrelatives "raw.rates"
  exact ⟨_, hgraph, hnodup, rfl, (hdual "customers").mp (by decide), (hunknown (by decide)).1⟩

end AssetFlow.Pipeline
