import AssetFlow.Proofs.Lineage.Known
import AssetFlow.Proofs.Lineage.Merge

/-!
# The part that types play in lineage

What is derived for an asset depends on the types of the columns of its upstreams only where it
takes them over: changing types before or after lineage is merged comes to the same
(`Asset.foldlM_merge_retype`). So an asset gets the same columns, up to a change of types, from two
pipelines that agree up to it on what the asset reads (`Resolver.derived_congr`).

A type that is searched for along upstreams depends on all of them (`Pipeline.inheritedType_congr`).

## Main definitions

- `Column.retype`, `Asset.retype`: a column, and all columns of an asset, with their types changed

## Main statements

- `Pipeline.mergeLineage_congr`: what merging depends on
- `Resolver.derived_congr`: what the columns that are derived for an asset depend on
-/

namespace AssetFlow

open Sql (ColumnRef Output)

/-- A column with its type changed. -/
def Column.retype (g : String → String) (c : Column) : Column :=
  { c with type := g c.type }

/-- An asset with the types of its columns changed. -/
def Asset.retype (g : String → String) (a : Asset) : Asset :=
  { a with columns := a.columns.map (Column.retype g) }

/-- A contribution with the type of its column changed. -/
def Contribution.retype (g : String → String) (x : Contribution) : Contribution :=
  { x with source := x.source.retype g }

variable {g : String → String}

/-- Changing types commutes with extending a column. -/
theorem Contribution.extend_retype {x : Contribution} {old : Option Column} :
    (x.retype g).extend (old.map (Column.retype g)) = (x.extend old).retype g := by
  obtain ⟨name, upstream, source⟩ := x
  cases old <;> cases upstream <;> rfl

namespace Asset

variable {a b : Asset} {x : Contribution} {xs : List Contribution} {n : String}

theorem retype_id : a.retype id = a := by
  have hid : Column.retype id = id := rfl
  rw [retype, hid, List.map_id]

theorem column?_retype : (a.retype g).column? n = (a.column? n).map (Column.retype g) := by
  rw [column?, retype, List.find?_map]
  rfl

theorem go_map {f f' : Column → Column} (hf : ∀ c, f' (c.retype g) = (f c).retype g)
    (cs : List Column) : updateColumn.go n f' (cs.map (Column.retype g)) =
      (updateColumn.go n f cs).map (Column.retype g) := by
  induction cs with
  | nil => rfl
  | cons c cs ih =>
    rw [List.map_cons, updateColumn.go, updateColumn.go, hf, ih]
    have hname : (c.retype g).name = c.name := rfl
    rw [hname]
    split <;> rfl

/-- Changing types commutes with merging a contribution. -/
theorem merge_retype : (a.retype g).merge (x.retype g) = (a.merge x).map (Asset.retype g) := by
  have hname : (x.retype g).name = x.name := rfl
  rw [merge_eq, merge_eq, hname, column?_retype, Option.isSome_map]
  split
  · rfl
  split
  · rfl
  split
  · refine congrArg Except.ok ?_
    rw [updateColumn, updateColumn, retype, retype, go_map fun c =>
      @Contribution.extend_retype g x (some c)]
  · refine congrArg Except.ok ?_
    rw [addColumn, addColumn, retype, retype, List.map_append, List.map_singleton,
      ← x.extend_retype]
    rfl

/-- Changing types commutes with merging. -/
theorem foldlM_merge_retype : (xs.map (Contribution.retype g)).foldlM merge (a.retype g) =
    (xs.foldlM merge a).map (Asset.retype g) := by
  induction xs generalizing a with
  | nil => rfl
  | cons x xs ih =>
    rw [List.map_cons, List.foldlM_cons, List.foldlM_cons, merge_retype]
    cases a.merge x with
    | error e => rfl
    | ok a' => exact ih

end Asset

namespace Pipeline

variable {p p' : Pipeline} {a up up' : Asset} {lineage : List Output} {r : ColumnRef}
  {column own : String}

/-! ### Types that are searched for -/

/-- Searching gives the same in two pipelines that agree on all that is met on the way. -/
theorem searchType_congr {S : String → Prop} (hsame : ∀ n, S n → p.asset? n = p'.asset? n)
    (hclosed : ∀ n up, S n → p.asset? n = some up → ∀ u ∈ up.upstreams, S u.text) (fuel : Nat)
    {seen queue : List String} (hqueue : ∀ n ∈ queue, S n) :
    p.searchType column fuel seen queue = p'.searchType column fuel seen queue := by
  induction fuel generalizing seen queue with
  | zero => rfl
  | succ fuel ih =>
    cases queue with
    | nil => rfl
    | cons n queue =>
      obtain ⟨hn, hqueue⟩ := List.forall_mem_cons.mp hqueue
      rw [searchType, searchType, ← hsame n hn]
      split
      · exact ih hqueue
      · cases hup : p.asset? n with
        | none => exact ih hqueue
        | some up =>
          dsimp only
          split
          · rfl
          · refine ih (List.forall_mem_append.mpr ⟨hqueue, fun m hm => ?_⟩)
            obtain ⟨u, hu, rfl⟩ := List.mem_map.mp hm
            exact hclosed n up hn hup u hu

theorem inheritedType_congr {S : String → Prop} (hsame : ∀ n, S n → p.asset? n = p'.asset? n)
    (hclosed : ∀ n up, S n → p.asset? n = some up → ∀ u ∈ up.upstreams, S u.text)
    (hcount : (p.assets.map (·.upstreams.length)).Perm (p'.assets.map (·.upstreams.length)))
    (hup : ∀ u ∈ up.upstreams, S u.text) :
    p.inheritedType up column = p'.inheritedType up column := by
  rw [inheritedType, inheritedType, hcount.foldl_eq]
  refine searchType_congr hsame hclosed _ fun n hn => ?_
  obtain ⟨u, hu, rfl⟩ := List.mem_map.mp hn
  exact hup u hu

/-! ### Merging -/

/-- A reference of the asset `own` means the same in two pipelines, up to a change of types: the
same asset, and the same source column of it. -/
structure MeansAlike (g : String → String) (p p' : Pipeline) (own : String) (r : ColumnRef) :
    Prop where
  asset : (p.asset? r.table).map (Asset.retype g) = (p'.asset? r.table).map (Asset.retype g)
  source : r.table ≠ own → ∀ up up', p.asset? r.table = some up → p'.asset? r.table = some up' →
    (p.sourceColumn up r).retype g = (p'.sourceColumn up' r).retype g

/-- A wildcard that means the same contributes the same up to types. -/
theorem MeansAlike.wildcardContributions (h : MeansAlike g p p' own r) :
    (p.wildcardContributions r).map (Contribution.retype g) =
      (p'.wildcardContributions r).map (Contribution.retype g) := by
  have hasset := h.asset
  rw [Pipeline.wildcardContributions, Pipeline.wildcardContributions]
  split
  · rfl
  · cases hup : p.asset? r.table with
    | none =>
      rw [hup] at hasset
      rw [Option.map_eq_none_iff.mp hasset.symm]
    | some up =>
      rw [hup] at hasset
      obtain ⟨up', hup', heq⟩ := Option.map_eq_some_iff.mp hasset.symm
      rw [hup']
      have hrow : ∀ up : Asset, (up.columns.map fun c =>
          (⟨c.name, some up.name.text, c⟩ : Contribution)).map (Contribution.retype g) =
          (up.retype g).columns.map fun c => ⟨c.name, some (up.retype g).name.text, c⟩ := by
        intro up
        rw [Asset.retype, List.map_map, List.map_map]
        rfl
      rw [hrow, hrow, heq]

/-- A reference that means the same contributes the same up to types. -/
theorem MeansAlike.referenceContributions {name : String} (h : MeansAlike g p p' own r) :
    (p.referenceContributions own name r).map (Contribution.retype g) =
      (p'.referenceContributions own name r).map (Contribution.retype g) := by
  have hasset := h.asset
  rw [Pipeline.referenceContributions, Pipeline.referenceContributions]
  split
  · rfl
  · next hother =>
    have hown : r.table ≠ own := fun heq => hother (by simp [heq])
    cases hup : p.asset? r.table with
    | none =>
      rw [hup] at hasset
      rw [Option.map_eq_none_iff.mp hasset.symm]
    | some up =>
      rw [hup] at hasset
      obtain ⟨up', hup', heq⟩ := Option.map_eq_some_iff.mp hasset.symm
      have hname : up.name = up'.name := (congrArg Asset.name heq.symm :)
      have hsource := h.source hown up up' hup hup'
      rw [hup']
      simp only [List.map_singleton, Contribution.retype, hname, hsource]

/-- **Merging depends on what the references mean**, and on the types of the columns only for those
of the columns that it makes. -/
theorem mergeLineage_congr (h : ∀ o ∈ lineage, ∀ r ∈ o.sources, MeansAlike g p p' a.name.text r) :
    (p.mergeLineage a lineage).map (Asset.retype g) =
      (p'.mergeLineage a lineage).map (Asset.retype g) := by
  have hsame : (p.contributions a.name.text lineage).map (Contribution.retype g) =
      (p'.contributions a.name.text lineage).map (Contribution.retype g) := by
    rw [contributions, contributions, List.map_flatMap, List.map_flatMap]
    refine List.flatMap_congr fun o ho => ?_
    rw [outputContributions, outputContributions]
    split
    · rw [List.map_flatMap, List.map_flatMap]
      exact List.flatMap_congr fun r hr => (h o ho r hr).wildcardContributions
    · rw [List.map_flatMap, List.map_flatMap]
      exact List.flatMap_congr fun r hr => (h o ho r hr).referenceContributions
  rw [mergeLineage_eq, mergeLineage_eq, ← Asset.foldlM_merge_retype, ← Asset.foldlM_merge_retype,
    hsame]

/-- The source column is the same if the asset is, and a type that is searched for. -/
theorem sourceColumn_congr (heq : up.retype g = up'.retype g)
    (htype : (∀ s t, g s = g t) ∨ p.inheritedType up r.column = p'.inheritedType up' r.column) :
    (p.sourceColumn up r).retype g = (p'.sourceColumn up' r).retype g := by
  have hcolumn : (up.column? r.column).map (Column.retype g) =
      (up'.column? r.column).map (Column.retype g) := by
    rw [← Asset.column?_retype, heq, Asset.column?_retype]
  rw [sourceColumn, sourceColumn]
  cases hc : up.column? r.column with
  | none =>
    rw [hc] at hcolumn
    rw [Option.map_eq_none_iff.mp hcolumn.symm]
    dsimp only [Column.retype]
    rcases htype with hg | hinherited
    · rw [hg _ _]
    · rw [hinherited]
  | some c =>
    rw [hc] at hcolumn
    obtain ⟨c', hc', hsame⟩ := Option.map_eq_some_iff.mp hcolumn.symm
    rw [hc']
    exact hsame.symm

end Pipeline

namespace Resolver

variable {r r' : Resolver} {p p' : Pipeline} {a : Asset}

/-- **What the columns that are derived for an asset depend on**: its lineage, and what the
references in it mean. -/
theorem derived_congr
    (hlineage : ∀ d, r.analyze d (r.schemaFor p a) a.sql = r'.analyze d (r'.schemaFor p' a) a.sql)
    (hmeans : ∀ d lineage, Sql.Dialect.ofAssetType? a.type = some d →
      r.analyze d (r.schemaFor p a) a.sql = .ok lineage →
      ∀ o ∈ lineage, ∀ x ∈ o.sources, Pipeline.MeansAlike g p p' a.name.text x) :
    (r.derived p a).map (Column.retype g) = (r'.derived p' a).map (Column.retype g) := by
  have hderive : (r.derive p a).map (Asset.retype g) = (r'.derive p' a).map (Asset.retype g) := by
    rw [derive, derive]
    cases hd : Sql.Dialect.ofAssetType? a.type with
    | none => rfl
    | some d =>
      dsimp only
      rw [← hlineage d]
      cases hok : r.analyze d (r.schemaFor p a) a.sql with
      | error e => rfl
      | ok lineage => exact Pipeline.mergeLineage_congr (hmeans d lineage hd hok)
  have hderived : ∀ (r : Resolver) (p : Pipeline), (r.derived p a).map (Column.retype g) =
      ((r.derive p a).map (Asset.retype g)).toOption.elim (a.columns.map (Column.retype g))
        Asset.columns := by
    intro r p
    rw [derived]
    cases r.derive p a <;> rfl
  rw [hderived, hderived, hderive]

end Resolver

end AssetFlow
