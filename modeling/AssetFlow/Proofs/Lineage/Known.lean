import AssetFlow.Proofs.Lineage.Analysis
import AssetFlow.Proofs.Sql.Dependence
import AssetFlow.Proofs.Sql.Origin

/-!
# What is known when an asset is analyzed

An asset is analyzed with the columns of its upstreams, on top of those known beforehand. Its
upstreams do not change after it was analyzed: those without columns stand before it in the order
(`Resolver.Analyzes.settled`). So what it was analyzed with can be read off the pipeline as it is in
the end (`Resolver.Analyzes.schemaFor_eq`).

## Main definitions

- `Asset.table?`: the table that an asset is known as
- `Asset.freeTables`: the tables that the SQL of an asset refers to
- `Resolver.derived`: the columns that analyzing an asset leaves it with

## Main statements

- `Resolver.tableNamed?_schemaFor`, `Resolver.tableNamed?_addColumns`: what stands under each name
- `Resolver.Analyzes.asset?_result`: what becomes of an asset that is analyzed
-/

namespace AssetFlow

open Sql (Schema SchemaTable)

/-- The table that an asset is known as, unless none of its columns has a name. -/
def Asset.table? (a : Asset) : Option SchemaTable :=
  if Schema.named a.schemaColumns = [] then none
  else some ⟨a.name.text, Schema.named a.schemaColumns⟩

/-- The tables that the SQL of an asset refers to where no clause binds their names. -/
def Asset.freeTables (a : Asset) : List String :=
  match Sql.Dialect.ofAssetType? a.type with
  | none => []
  | some d =>
    match Sql.firstStatement d a.sql with
    | .error _ => []
    | .ok s => (s.references.filter fun r => decide (r.key ∉ r.binders.visible)).map (·.name.path)

/-- Lineage goes back to what is known under the names of these tables. -/
theorem Asset.exists_freeTable {a : Asset} {d : Sql.Dialect} {known : Schema}
    {lineage : List Sql.Output} {o : Sql.Output} {c : Sql.ColumnRef}
    (hd : Sql.Dialect.ofAssetType? a.type = some d)
    (hlineage : Sql.columnLineage d known a.sql = .ok lineage) (ho : o ∈ lineage)
    (hc : c ∈ o.sources) : ∃ w ∈ a.freeTables, known.registered w = c.table := by
  obtain ⟨s, hs, hok⟩ := exists_of_bind_eq_ok hlineage
  obtain rfl := Except.ok.inj hok
  obtain ⟨x, hx, hfree, htable⟩ := Sql.Statement.exists_reference_of_lineage ho hc
  refine ⟨x.name.path, ?_, htable⟩
  simp only [freeTables, hd, hs]
  exact List.mem_map_of_mem (List.mem_filter.mpr ⟨hx, decide_eq_true hfree⟩)

namespace Sql.Schema

variable {s : Schema} {a : Asset} {as : List Asset} {n : String} {names : List String}

/-- The known tables with those of some assets put in, one after another. -/
def insertAll (s : Schema) (as : List Asset) : Schema :=
  as.foldl (fun s a => s.insert a.name.text a.schemaColumns) s

theorem insertAll_cons :
    s.insertAll (a :: as) = (s.insert a.name.text a.schemaColumns).insertAll as :=
  rfl

/-- A table that is inserted is found in place of an older one of its name. -/
theorem tableNamed?_insert_asset : (s.insert a.name.text a.schemaColumns).tableNamed? n =
    if a.name.text = n then a.table?.or (s.tableNamed? n) else s.tableNamed? n := by
  rw [tableNamed?_insert, Asset.table?]
  by_cases hname : a.name.text = n
  · by_cases hnamed : named a.schemaColumns = []
    · simp [hnamed]
    · simp [hname, hnamed]
  · simp [hname]

/-- Inserting assets of other names does not change what is found. -/
theorem tableNamed?_insertAll_of_not_mem (h : ∀ a ∈ as, a.name.text ≠ n) :
    (s.insertAll as).tableNamed? n = s.tableNamed? n := by
  induction as generalizing s with
  | nil => rfl
  | cons b as ih =>
    obtain ⟨hb, has⟩ := List.forall_mem_cons.mp h
    rw [insertAll_cons, ih has, tableNamed?_insert_asset, if_neg hb]

/-- An asset is known as its table if no other asset has its name. -/
theorem tableNamed?_insertAll_of_mem (ha : a ∈ as)
    (hsame : ∀ b ∈ as, b.name.text = a.name.text → b = a) :
    (s.insertAll as).tableNamed? a.name.text = a.table?.or (s.tableNamed? a.name.text) := by
  induction as generalizing s with
  | nil => cases ha
  | cons b as ih =>
    obtain ⟨hb, has⟩ := List.forall_mem_cons.mp hsame
    rw [insertAll_cons]
    by_cases hmem : a ∈ as
    · rw [ih hmem has, tableNamed?_insert_asset]
      split
      · next hname =>
        rw [hb hname]
        cases a.table? <;> rfl
      · rfl
    · obtain rfl : a = b := (List.mem_cons.mp ha).resolve_right hmem
      have hother : ∀ c ∈ as, c.name.text ≠ a.name.text := fun c hc hname =>
        hmem (has c hc hname ▸ hc)
      rw [tableNamed?_insertAll_of_not_mem hother, tableNamed?_insert_asset, if_pos rfl]

/-- Inserting assets keeps the names of tables unique. -/
theorem Unique.insertAll (h : s.Unique) : (s.insertAll as).Unique := by
  induction as generalizing s with
  | nil => exact h
  | cons a as ih => exact ih h.insert

/-- Inserting assets of the list keeps a schema within the list. -/
theorem Within.insertAll (h : s.Within names) (has : ∀ a ∈ as, a.name.text ∈ names) :
    (s.insertAll as).Within names := by
  induction as generalizing s with
  | nil => exact h
  | cons a as ih =>
    obtain ⟨ha, has⟩ := List.forall_mem_cons.mp has
    exact ih (h.insert ha) has

theorem unique_empty : Unique {} :=
  List.nodup_nil

theorem within_empty : Within {} names :=
  fun _ ht => nomatch ht

end Sql.Schema

namespace Pipeline

variable {p : Pipeline} {a b : Asset} {n : String}

/-- Assets of one name are one asset. -/
theorem eq_of_name_eq (ha : a ∈ p.assets) (hb : b ∈ p.assets) (h : a.name.text = b.name.text) :
    a = b :=
  Option.some.inj ((asset?_of_mem ha).symm.trans (h ▸ asset?_of_mem hb))

theorem text_mem_names_of_asset? (ha : p.asset? n = some a) : n ∈ p.names.map AssetName.text := by
  obtain ⟨hmem, rfl⟩ := asset?_eq_some ha
  exact List.mem_map_of_mem (List.mem_map_of_mem hmem)

end Pipeline

namespace Resolver

variable {r : Resolver} {p q : Pipeline} {a up : Asset} {n m : String}
  {roots order before after : List String}

/-! ### Tables of upstreams -/

/-- Adding the columns of a pipeline inserts its assets into the schema. -/
theorem schema_addColumns : (r.addColumns p).schema = r.schema.insertAll p.assets := by
  have hstep : (fun (s : Schema) (a : Asset) =>
      if a.columns.isEmpty then s else s.insert a.name.text a.schemaColumns) =
      fun s a => s.insert a.name.text a.schemaColumns := by
    funext s a
    split
    · next hempty =>
      have hnone : a.schemaColumns = [] := by
        rw [Asset.schemaColumns, List.isEmpty_iff.mp hempty, List.map_nil]
      rw [hnone]
      rfl
    · rfl
  simp only [addColumns, hstep, Schema.insertAll]

/-- The schema for an asset is the known one with the upstreams of the asset on top. -/
theorem schemaFor_eq : r.schemaFor p a =
    r.schema.overlay (Schema.insertAll {} (a.upstreams.filterMap fun u => p.asset? u.text)) := by
  rw [schemaFor]
  congr 1
  generalize ({} : Schema) = s
  induction a.upstreams generalizing s with
  | nil => rfl
  | cons u us ih =>
    rw [List.foldl_cons, List.filterMap_cons, ih]
    cases p.asset? u.text <;> rfl

/-- The tables known beforehand are those of the assets with columns. -/
theorem tableNamed?_addColumns :
    (({} : Resolver).addColumns p).schema.tableNamed? n = (p.asset? n).bind Asset.table? := by
  rw [schema_addColumns]
  cases ha : p.asset? n with
  | none =>
    exact Schema.tableNamed?_insertAll_of_not_mem fun a ha' hname => by
      rw [← hname, Pipeline.asset?_of_mem ha'] at ha
      cases ha
  | some a =>
    obtain ⟨hmem, rfl⟩ := Pipeline.asset?_eq_some ha
    rw [Schema.tableNamed?_insertAll_of_mem hmem fun b hb hname =>
      Pipeline.eq_of_name_eq hb hmem hname]
    exact Option.or_none

/-- The tables that an asset is analyzed with are those of its upstreams, and else those known
beforehand. -/
theorem tableNamed?_schemaFor : (r.schemaFor p a).tableNamed? n =
    ((if n ∈ a.upstreams.map AssetName.text then p.asset? n else none).bind Asset.table?).or
      (r.schema.tableNamed? n) := by
  rw [schemaFor_eq, Schema.tableNamed?_overlay Schema.unique_empty.insertAll]
  congr 1
  have hmem : ∀ b ∈ a.upstreams.filterMap (fun u => p.asset? u.text),
      b.name.text ∈ a.upstreams.map AssetName.text ∧ p.asset? b.name.text = some b := by
    intro b hb
    obtain ⟨u, hu, hasset⟩ := List.mem_filterMap.mp hb
    obtain ⟨-, hname⟩ := Pipeline.asset?_eq_some hasset
    rw [hname]
    exact ⟨List.mem_map_of_mem hu, hasset⟩
  by_cases hfound : ∃ b ∈ a.upstreams.filterMap (fun u => p.asset? u.text), b.name.text = n
  · obtain ⟨b, hb, rfl⟩ := hfound
    obtain ⟨hup, hasset⟩ := hmem b hb
    rw [if_pos hup, hasset, Schema.tableNamed?_insertAll_of_mem hb fun c hc hname =>
      Option.some.inj ((hname ▸ (hmem c hc).2).symm.trans hasset)]
    exact Option.or_none
  · have hnone : (if n ∈ a.upstreams.map AssetName.text then p.asset? n else none) = none := by
      split
      · next hup =>
        obtain ⟨u, hu, rfl⟩ := List.mem_map.mp hup
        refine Option.eq_none_iff_forall_not_mem.mpr fun b hb => hfound ⟨b, ?_, ?_⟩
        · exact List.mem_filterMap.mpr ⟨u, hu, hb⟩
        · exact (Pipeline.asset?_eq_some hb).2
      · rfl
    rw [hnone, Schema.tableNamed?_insertAll_of_not_mem fun b hb hname => hfound ⟨b, hb, hname⟩]
    rfl

/-- What a fresh resolver knows of a pipeline are its assets. -/
theorem within_addColumns :
    (({} : Resolver).addColumns p).schema.Within (p.names.map AssetName.text) := by
  rw [schema_addColumns]
  refine Schema.Within.insertAll Schema.within_empty fun a ha => ?_
  exact List.mem_map_of_mem (List.mem_map_of_mem ha)

/-- The schema for an asset holds assets of the pipeline only. -/
theorem within_schemaFor (h : r.schema.Within (p.names.map AssetName.text)) :
    (r.schemaFor p a).Within (p.names.map AssetName.text) := by
  rw [schemaFor_eq]
  refine h.overlay (Schema.Within.insertAll Schema.within_empty fun b hb => ?_)
  obtain ⟨u, -, hasset⟩ := List.mem_filterMap.mp hb
  obtain ⟨-, hname⟩ := Pipeline.asset?_eq_some hasset
  rw [hname]
  exact Pipeline.text_mem_names_of_asset? hasset

theorem names_attemptAll : (r.attemptAll p order).names = p.names := by
  have houtline := congrArg (List.map Asset.name) (@outline_attemptAll r p order)
  rwa [List.map_map, List.map_map] at houtline

theorem within_schemaFor_attemptAll (h : r.schema.Within (p.names.map AssetName.text)) :
    (r.schemaFor (r.attemptAll p order) a).Within (p.names.map AssetName.text) := by
  rw [← @names_attemptAll r p order] at h ⊢
  exact within_schemaFor h

/-! ### The moment of analysis -/

/-- What it takes to derive columns: a dialect, a text that is analyzed, and outputs that can be
merged. -/
theorem derive_eq_ok {b : Asset} (h : r.derive p a = .ok b) : ∃ d lineage,
    Sql.Dialect.ofAssetType? a.type = some d ∧
    r.analyze d (r.schemaFor p a) a.sql = .ok lineage ∧ p.mergeLineage a lineage = .ok b := by
  rw [derive] at h
  split at h
  · next d hd =>
    obtain ⟨lineage, hlineage, hmerge⟩ := exists_of_bind_eq_ok h
    exact ⟨d, lineage, hd, eq_ok_of_mapError_eq_ok hlineage, hmerge⟩
  · cases h

/-- The columns that analyzing an asset leaves it with. -/
def derived (r : Resolver) (p : Pipeline) (a : Asset) : List Column :=
  match r.derive p a with
  | .ok found => found.columns
  | .error _ => a.columns

/-- Analyzing an asset of the pipeline updates it with the columns that are derived. -/
theorem parseLineage_of_asset? (ha : p.asset? n = some a) :
    r.parseLineage p n = (r.derive p a).map fun found =>
      p.updateAsset n fun a => { a with columns := found.columns } := by
  rw [parseLineage, ha]
  dsimp only
  cases r.derive p a <;> rfl

/-- Attempting an asset gives it the columns that are derived, or those that it had. -/
theorem asset?_attempt (ha : p.asset? n = some a) :
    (r.attempt p n).asset? n = some { a with columns := r.derived p a } := by
  have hname := (Pipeline.asset?_eq_some ha).2
  rw [attempt, parseLineage_of_asset? ha, derived]
  cases r.derive p a with
  | error e => exact ha
  | ok found => simp [Except.map, Pipeline.updateAsset, Pipeline.asset?_mapAssets, ha, hname]

/-- An asset stays what it is unless it is analyzed later. -/
theorem asset?_before (hm : m ∉ n :: after) : (r.attemptAll p before).asset? m =
    (r.attemptAll p (before ++ n :: after)).asset? m := by
  rw [attemptAll_append, asset?_attemptAll_of_not_mem hm]

/-- What stands earlier in the order does not come again. -/
theorem Analyzes.not_mem_rest (h : Analyzes p roots (before ++ n :: after)) (hm : m ∈ before) :
    m ∉ n :: after := fun hlate => (List.nodup_append.mp h.once).2.2 m hm m hlate rfl

/-- An asset is as it was when its turn comes. -/
theorem Analyzes.asset?_fresh (h : Analyzes p roots (before ++ n :: after)) :
    (r.attemptAll p before).asset? n = p.asset? n :=
  asset?_attemptAll_of_not_mem fun hn => h.not_mem_rest hn (List.mem_cons_self ..)

/-- The upstreams of an asset are not analyzed after it. -/
theorem Analyzes.settled (h : Analyzes p roots (before ++ n :: after)) (ha : p.asset? n = some a)
    (hm : m ∈ a.upstreams.map AssetName.text) : m ∉ n :: after := by
  intro hlate
  obtain ⟨⟨b, hb, hcolumns⟩, -⟩ := h.reached n (by simp)
  obtain rfl := Option.some.inj (ha.symm.trans hb)
  have hopen := (h.reached m (List.mem_append_right _ hlate)).1
  have hearly := h.after_awaited before n after rfl m ⟨a, ha, hcolumns, hm, hopen⟩
  exact h.not_mem_rest hearly hlate

/-- The schema for an asset is the same when its turn comes and at the end. -/
theorem Analyzes.schemaFor_eq (h : Analyzes p roots (before ++ n :: after))
    (ha : p.asset? n = some a) : r.schemaFor (r.attemptAll p before) a =
      r.schemaFor (r.attemptAll p (before ++ n :: after)) a := by
  rw [Resolver.schemaFor_eq, Resolver.schemaFor_eq]
  have hsame : ∀ u ∈ a.upstreams, (r.attemptAll p before).asset? u.text =
      (r.attemptAll p (before ++ n :: after)).asset? u.text := fun u hu =>
    asset?_before (h.settled ha (List.mem_map_of_mem hu))
  rw [List.filterMap_congr hsame]

/-- An asset that is analyzed is left with what was derived for it at that moment. -/
theorem Analyzes.asset?_result (h : Analyzes p roots (before ++ n :: after))
    (ha : p.asset? n = some a) : (r.attemptAll p (before ++ n :: after)).asset? n =
      some { a with columns := r.derived (r.attemptAll p before) a } := by
  have hafter : n ∉ after := (List.nodup_cons.mp (List.nodup_append.mp h.once).2.1).1
  rw [attemptAll_append, attemptAll_cons, asset?_attemptAll_of_not_mem hafter,
    asset?_attempt (h.asset?_fresh.trans ha)]

end Resolver

end AssetFlow
