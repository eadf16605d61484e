import AssetFlow.Lineage.Infer
import Mathlib.Tactic.Common

/-!
# Which upstreams are inferred

An asset gets those assets of the pipeline as upstreams that the tables in its SQL mean, besides the
upstreams that it has.

## Main definitions

- `Pipeline.RefersTo`: a text of SQL refers to an asset

## Main statements

- `Pipeline.exists_inferred`: the upstreams of an asset after inference
-/

namespace AssetFlow

/-- A table is matched with an asset of the pipeline. -/
theorem mem_of_matchAsset {names : List AssetName} {table : String} {n : AssetName}
    (h : matchAsset names table = some n) : n ∈ names := by
  rw [matchAsset] at h
  split at h
  · next m hm =>
    obtain rfl := Option.some.inj h
    exact List.mem_of_find?_eq_some hm
  · exact List.mem_of_find?_eq_some h

namespace Asset

variable {a : Asset} {n u : AssetName} {found : List AssetName}

/-- Adding an upstream adds this one and no other. -/
theorem mem_upstreams_addUpstream :
    u ∈ (a.addUpstream n).upstreams ↔ u ∈ a.upstreams ∨ u = n := by
  rw [addUpstream]
  split
  · next hn =>
    have hmem := List.contains_iff_mem.mp hn
    exact ⟨.inl, fun h => h.elim id fun heq => heq ▸ hmem⟩
  · simp

theorem sql_addUpstreams : (a.addUpstreams found).sql = a.sql := by
  induction found generalizing a with
  | nil => rfl
  | cons n found ih =>
    have hfold : a.addUpstreams (n :: found) = (a.addUpstream n).addUpstreams found := rfl
    rw [hfold, ih, addUpstream]
    split <;> rfl

theorem type_addUpstreams : (a.addUpstreams found).type = a.type := by
  induction found generalizing a with
  | nil => rfl
  | cons n found ih =>
    have hfold : a.addUpstreams (n :: found) = (a.addUpstream n).addUpstreams found := rfl
    rw [hfold, ih, addUpstream]
    split <;> rfl

/-- Adding upstreams adds these and no others. -/
theorem mem_upstreams_addUpstreams :
    u ∈ (a.addUpstreams found).upstreams ↔ u ∈ a.upstreams ∨ u ∈ found := by
  induction found generalizing a with
  | nil => simp [addUpstreams]
  | cons n found ih =>
    have hfold : a.addUpstreams (n :: found) = (a.addUpstream n).addUpstreams found := rfl
    rw [hfold, ih, mem_upstreams_addUpstream, List.mem_cons, or_assoc]

end Asset

namespace Pipeline

variable {p : Pipeline} {a : Asset} {f : Asset → Asset} {sql : String} {u : AssetName}

/-- A text of SQL of an asset refers to another asset of the pipeline: one of the tables that it
mentions means this asset. -/
def RefersTo (p : Pipeline) (a : Asset) (sql : String) (u : AssetName) : Prop :=
  u ≠ a.name ∧ ∃ d tables, Sql.Dialect.ofAssetType? a.type = some d ∧
    Sql.referencedTables d sql = .ok tables ∧ ∃ table ∈ tables, matchAsset p.names table = some u

/-- The assets that the SQL of an asset reads are those that it refers to. -/
theorem mem_readAssets_iff :
    u ∈ a.readAssets Sql.referencedTables p.names ↔ p.RefersTo a a.sql u := by
  rw [Asset.readAssets, RefersTo]
  cases hdialect : Sql.Dialect.ofAssetType? a.type with
  | none => simp
  | some d =>
    cases htables : Sql.referencedTables d a.sql with
    | error e => simp [htables]
    | ok tables =>
      simp only [htables, List.mem_filter, List.mem_filterMap, bne_iff_ne, Option.some.injEq]
      constructor
      · rintro ⟨⟨table, hmem, hmatch⟩, hne⟩
        exact ⟨hne, d, tables, rfl, htables, table, hmem, hmatch⟩
      · rintro ⟨hne, _, _, rfl, htables', table, hmem, hmatch⟩
        obtain rfl := Except.ok.inj (htables.symm.trans htables')
        exact ⟨⟨table, hmem, hmatch⟩, hne⟩

@[simp] theorem names_mapAssets : (p.mapAssets f).names = p.names := by
  simp only [names, mapAssets, List.map_map]
  rfl

theorem mem_assets_mapAssets (ha : a ∈ p.assets) :
    { f a with name := a.name } ∈ (p.mapAssets f).assets :=
  List.mem_map_of_mem (f := fun a => { f a with name := a.name }) ha

/-- Mapping the assets to themselves changes nothing. -/
theorem mapAssets_of_fixed (h : ∀ a ∈ p.assets, { f a with name := a.name } = a) :
    p.mapAssets f = p := by
  have hassets : p.assets.map (fun a => { f a with name := a.name }) = p.assets :=
    (List.map_congr_left h).trans (List.map_id _)
  obtain ⟨config, root, assets, unique⟩ := p
  simpa only [mapAssets, mk.injEq, true_and] using hassets

/-- **The upstreams of an asset after inference** are those that it had and those that its SQL
refers to. -/
theorem exists_inferred (ha : a ∈ p.assets) : ∃ b ∈ p.inferUpstreams.1.assets,
    b.name = a.name ∧ b.sql = a.sql ∧
      ∀ u, u ∈ b.upstreams ↔ u ∈ a.upstreams ∨ p.RefersTo a a.sql u := by
  refine ⟨_, mem_assets_mapAssets ha, rfl, Asset.sql_addUpstreams, fun u => ?_⟩
  rw [← mem_readAssets_iff]
  exact Asset.mem_upstreams_addUpstreams

/-- What the SQL of an asset refers to is among its upstreams after inference. -/
theorem RefersTo.mem_upstreams (h : p.RefersTo a a.sql u) (ha : a ∈ p.inferUpstreams.1.assets) :
    u ∈ a.upstreams := by
  obtain ⟨b, -, rfl⟩ := List.mem_map.mp ha
  have hread : p.RefersTo b b.sql u := by
    simpa only [RefersTo, Asset.sql_addUpstreams, Asset.type_addUpstreams] using h
  exact Asset.mem_upstreams_addUpstreams.mpr (.inr (mem_readAssets_iff.mpr hread))

end Pipeline

end AssetFlow
