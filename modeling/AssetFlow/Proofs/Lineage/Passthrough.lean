import AssetFlow.Proofs.Lineage.Growth
import AssetFlow.Proofs.Lineage.Known
import AssetFlow.Proofs.Sql.StarQuery

/-!
# Stars that pass columns on

An asset that reads all columns of another with `select * from t` gets copies of them. They come to
it by one of two routes: if the columns are known when the SQL is analyzed, the star is expanded to
them, and else it is filled in from the other asset when lineage is merged. Both add the same
columns (`Pipeline.contributions_allOf`), which makes a step of a chain of such assets, and a chain
of any length copies the columns at its start to all of its assets.

## Main definitions

- `Column.passedOn`: a column as it is passed on
- `Resolver.Finds`: the star of an asset means all columns of another
- `Pipeline.StarChain`: a row of assets each of which reads all columns of the one before

## Main statements

- `Resolver.derived_starQuery`: what an asset gets from `select * from t`
- `Resolver.star_passthrough`: a chain copies the columns at its start
-/

namespace AssetFlow

open Sql (Schema Output)

/-- The column as an asset gets it that reads all columns of the asset `upstream`. -/
def Column.passedOn (upstream : String) (c : Column) : Column where
  name := c.name
  type := c.type
  primaryKey := false
  description := ""
  checks := []
  entityAttribute := c.entityAttribute
  updateOnMerge := c.updateOnMerge
  provenance := [⟨upstream, c.name, upstream⟩]

/-- Columns that can be passed on: each has a name of its own, which is not that of all columns. -/
structure Column.Proper (cs : List Column) : Prop where
  nodup : (cs.map (·.name)).Nodup
  named : ∀ c ∈ cs, c.name ≠ ""
  no_star : ∀ c ∈ cs, c.name ≠ "*"

namespace Column

variable {c : Column} {cs : List Column} {u v : String}

theorem passedOn_passedOn : (c.passedOn u).passedOn v = c.passedOn v :=
  rfl

theorem map_name_passedOn : (cs.map (passedOn u)).map (·.name) = cs.map (·.name) := by
  rw [List.map_map]
  rfl

theorem Proper.map_passedOn (h : Proper cs) : Proper (cs.map (passedOn u)) := by
  constructor
  case nodup =>
    rw [map_name_passedOn]
    exact h.nodup
  case named => exact List.forall_mem_map.mpr h.named
  case no_star => exact List.forall_mem_map.mpr h.no_star

end Column

/-- The asset declares no columns, and reads all columns of the asset `up` by its name, which needs
no quotes. -/
structure Asset.ReadsAll (a : Asset) (up : AssetName) : Prop where
  undeclared : a.columns = []
  sql_eq : a.sql = Sql.starQuery up.text
  plain : ∃ d, Sql.Dialect.ofAssetType? a.type = some d ∧ Sql.isPlainName d up.text = true

/-- What reading all of these columns adds to the columns of an asset. -/
def Column.contribution (upstream : String) (c : Column) : Contribution :=
  ⟨c.name, some upstream, c⟩

/-! ### Merging columns that are passed on -/

namespace Asset

variable {a : Asset} {c : Column} {cs : List Column} {u : String}

theorem column?_of_mem (hnodup : (a.columns.map (·.name)).Nodup) (hc : c ∈ a.columns) :
    a.column? c.name = some c := by
  obtain ⟨b, hb⟩ :=
    Option.isSome_iff_exists.mp (isSome_column?_iff.mpr (List.mem_map_of_mem hc))
  have hname : b.name = c.name := by simpa using List.find?_some hb
  obtain rfl := List.inj_on_of_nodup_map hnodup (List.mem_of_find?_eq_some hb) hc hname
  exact hb

theorem table?_eq_some (hcolumns : Column.Proper a.columns) (hne : a.columns ≠ []) :
    a.table? = some ⟨a.name.text, a.schemaColumns⟩ := by
  have hnamed : Schema.named a.schemaColumns = a.schemaColumns := by
    refine List.filter_eq_self.mpr (List.forall_mem_map.mpr fun c hc => ?_)
    simpa using hcolumns.named c hc
  rw [table?, hnamed, if_neg (by simpa [schemaColumns] using hne)]

theorem merge_contribution (hname : c.name ≠ "") (hstar : c.name ≠ "*")
    (hnew : c.name ∉ a.columns.map (·.name)) :
    a.merge (c.contribution u) = .ok (a.addColumn (c.passedOn u)) := by
  rw [← isSome_column?_iff] at hnew
  simp only [merge_eq, Column.contribution, hname, hstar, hnew, if_false, Bool.false_eq_true]
  rfl

/-- Columns with new names are added as they are passed on. -/
theorem foldlM_merge_contributions (hcs : Column.Proper cs)
    (hnew : ∀ c ∈ cs, c.name ∉ a.columns.map (·.name)) :
    (cs.map (Column.contribution u)).foldlM merge a =
      .ok { a with columns := a.columns ++ cs.map (Column.passedOn u) } := by
  induction cs generalizing a with
  | nil => simp [pure, Except.pure]
  | cons c cs ih =>
    obtain ⟨hfirst, hnodup⟩ := List.nodup_cons.mp hcs.nodup
    obtain ⟨hname, hnamed⟩ := List.forall_mem_cons.mp hcs.named
    obtain ⟨hstar, hstars⟩ := List.forall_mem_cons.mp hcs.no_star
    obtain ⟨hc, hnew⟩ := List.forall_mem_cons.mp hnew
    have hrest : ∀ d ∈ cs, d.name ∉ (a.addColumn (c.passedOn u)).columns.map (·.name) := by
      intro d hd hmem
      simp only [addColumn, List.map_append, List.map_singleton, List.mem_append,
        List.mem_singleton] at hmem
      rcases hmem with hold | hsame
      · exact hnew d hd hold
      · exact hfirst (List.mem_map.mpr ⟨d, hd, hsame⟩)
    rw [List.map_cons, List.foldlM_cons, merge_contribution hname hstar hc]
    refine (ih ⟨hnodup, hnamed, hstars⟩ hrest).trans ?_
    simp [addColumn]

end Asset

/-! ### Two routes to the same columns -/

namespace Pipeline

variable {p : Pipeline} {up : Asset} {self : String} {known : Schema}

/-- A star that is left as it is gets filled in from the asset that it means. -/
theorem contributions_wildcard (hup : p.asset? up.name.text = some up) :
    p.contributions self [Output.wildcard up.name.text] =
      up.columns.map (Column.contribution up.name.text) := by
  simp [contributions, outputContributions, Output.wildcard, Output.isWildcard,
    wildcardContributions, hup, Column.contribution]

/-- A star that is expanded refers to the columns one by one. -/
theorem contributions_columns (hup : p.asset? up.name.text = some up)
    (hcolumns : Column.Proper up.columns) (hself : up.name.text ≠ self) :
    p.contributions self (up.columns.map fun c => ⟨c.name, [⟨up.name.text, c.name⟩]⟩) =
      up.columns.map (Column.contribution up.name.text) := by
  rw [contributions, List.flatMap_map, List.map_eq_flatMap]
  refine List.flatMap_congr fun c hc => ?_
  have hsource : p.sourceColumn up ⟨up.name.text, c.name⟩ = c := by
    rw [sourceColumn, Asset.column?_of_mem hcolumns.nodup hc]
  have hstar := hcolumns.no_star c hc
  simp [outputContributions, Output.isWildcard, hstar, referenceContributions, hself, hup, hsource,
    Column.contribution]

/-- It makes no difference whether the columns of an asset are known. -/
theorem contributions_allOf (hup : p.asset? up.name.text = some up)
    (hcolumns : Column.Proper up.columns) (hself : up.name.text ≠ self)
    (hknown : known.find? up.name.text = none ∨
      known.find? up.name.text = some ⟨up.name.text, up.schemaColumns⟩) :
    p.contributions self (known.allOf up.name.text) =
      up.columns.map (Column.contribution up.name.text) := by
  rcases hknown with hnone | hsome
  · rw [Schema.allOf, hnone]
    exact contributions_wildcard hup
  · rw [Schema.allOf, hsome, ← contributions_columns hup hcolumns hself]
    simp only [Asset.schemaColumns, List.map_map]
    rfl

end Pipeline

/-! ### One step -/

namespace Resolver

variable {r : Resolver} {p q : Pipeline} {a up : Asset} {roots order before after : List String}
  {A : Nat → Asset} {n : Nat}

/-- The star of an asset means all columns of `up`: it lists `up` upstream, or no columns are known
beforehand and none of the assets that it lists has that name up to case. -/
def Finds (r : Resolver) (p : Pipeline) (up : AssetName) (a : Asset) : Prop :=
  up ∈ a.upstreams ∨ r.schema = {} ∧
    ∀ u ∈ a.upstreams, u ∈ p.names → Text.equalsIgnoringAsciiCase u.text up.text = false

/-- What is known under the name of `up` are its columns, if anything. -/
theorem Finds.find?_schemaFor (h : r.Finds p up.name a) (hup : p.asset? up.name.text = some up)
    (hcolumns : Column.Proper up.columns) (hne : up.columns ≠ []) :
    (r.schemaFor p a).find? up.name.text = none ∨
      (r.schemaFor p a).find? up.name.text = some ⟨up.name.text, up.schemaColumns⟩ := by
  rcases h with hlists | ⟨hempty, hother⟩
  · right
    have hmem : up.name.text ∈ a.upstreams.map AssetName.text := List.mem_map_of_mem hlists
    have hnamed : (r.schemaFor p a).tableNamed? up.name.text =
        some ⟨up.name.text, up.schemaColumns⟩ := by
      rw [tableNamed?_schemaFor, if_pos hmem, hup, Option.bind_some,
        Asset.table?_eq_some hcolumns hne, Option.some_or]
    rw [Schema.tableNamed?] at hnamed
    rw [Schema.find?, hnamed]
  · left
    have hwithin : (r.schemaFor p a).Within
        ((a.upstreams.filter (· ∈ p.names)).map AssetName.text) := by
      rw [schemaFor_eq, hempty]
      refine Schema.within_empty.overlay (Schema.Within.insertAll Schema.within_empty ?_)
      intro b hb
      obtain ⟨u, hu, hasset⟩ := List.mem_filterMap.mp hb
      obtain ⟨hb, hname⟩ := Pipeline.asset?_eq_some hasset
      have hmem : u ∈ p.names := AssetName.eq_of_text_eq hname ▸ List.mem_map_of_mem hb
      exact hname ▸ List.mem_map_of_mem (List.mem_filter.mpr ⟨hu, by simpa using hmem⟩)
    refine Option.eq_none_iff_forall_not_mem.mpr fun t ht => ?_
    obtain ⟨htable, hsame⟩ := Schema.find?_eq_some ht
    obtain ⟨u, hu, hname⟩ := List.mem_map.mp (hwithin t htable)
    obtain ⟨hu, hmem⟩ := List.mem_filter.mp hu
    rw [← hname, hother u hu (by simpa using hmem)] at hsame
    cases hsame

/-- **What an asset gets from `select * from t`**: copies of all columns of `t`, whether they are
known when its SQL is analyzed or not. -/
theorem derived_starQuery (hr : r.analyze = Sql.columnLineage) (hreads : a.ReadsAll up.name)
    (ha : p.asset? a.name.text = some a) (hup : p.asset? up.name.text = some up)
    (hcolumns : Column.Proper up.columns) (hne : up.columns ≠ []) (hfinds : r.Finds p up.name a) :
    r.derived p a = up.columns.map (Column.passedOn up.name.text) := by
  obtain ⟨d, hd, hplain⟩ := hreads.plain
  have hself : up.name.text ≠ a.name.text := fun hname => by
    rw [hname, ha] at hup
    obtain rfl := Option.some.inj hup
    exact hne hreads.undeclared
  have hlineage : r.analyze d (r.schemaFor p a) a.sql =
      .ok ((r.schemaFor p a).allOf up.name.text) := by
    rw [hr, hreads.sql_eq, Sql.columnLineage_starQuery hplain]
  have hmerge := Asset.foldlM_merge_contributions (a := a) (u := up.name.text) hcolumns
    (by simp [hreads.undeclared])
  have hderive : r.derive p a =
      .ok { a with columns := a.columns ++ up.columns.map (Column.passedOn up.name.text) } := by
    simp only [derive_eq, hd, hlineage]
    rw [Pipeline.contributions_allOf hup hcolumns hself (hfinds.find?_schemaFor hup hcolumns hne)]
    exact hmerge
  rw [derived, hderive, hreads.undeclared]
  rfl

end Resolver

/-! ### Chains -/

/-- A row of assets `A 0, …, A n`: the first declares columns that can be passed on, and each of the
others reads all columns of the one before it. From the third on each lists the one before it
upstream. -/
structure Pipeline.StarChain (p : Pipeline) (A : Nat → Asset) (n : Nat) : Prop where
  mem : ∀ i ≤ n, A i ∈ p.assets
  declared : (A 0).columns ≠ []
  proper : Column.Proper (A 0).columns
  reads : ∀ i < n, (A (i + 1)).ReadsAll (A i).name
  lists : ∀ i < n, 0 < i → (A i).name ∈ (A (i + 1)).upstreams

namespace Pipeline

variable {p : Pipeline} {A : Nat → Asset} {n i : Nat}

namespace StarChain

theorem asset?_eq (h : p.StarChain A n) (hi : i ≤ n) : p.asset? (A i).name.text = some (A i) :=
  asset?_of_mem (h.mem i hi)

theorem unresolved (h : p.StarChain A n) (hi : i < n) : p.Unresolved (A (i + 1)).name.text :=
  ⟨A (i + 1), h.asset?_eq hi, (h.reads i hi).undeclared⟩

theorem awaits (h : p.StarChain A n) (hi : i + 1 < n) :
    p.Awaits (A (i + 2)).name.text (A (i + 1)).name.text :=
  ⟨A (i + 2), h.asset?_eq hi, (h.reads (i + 1) hi).undeclared,
    List.mem_map_of_mem (h.lists (i + 1) hi (Nat.succ_pos i)), h.unresolved (Nat.lt_of_succ_lt hi)⟩

theorem not_unresolved_start (h : p.StarChain A n) : ¬ p.Unresolved (A 0).name.text := by
  rintro ⟨a, ha, hcolumns⟩
  obtain rfl := Option.some.inj ((h.asset?_eq (Nat.zero_le n)).symm.trans ha)
  exact h.declared hcolumns

/-- Assets that list only the one before them lead to the start of the chain, and to no cycle. -/
theorem not_reachesCycle (h : p.StarChain A n)
    (honly : ∀ i < n, ∀ u ∈ (A (i + 1)).upstreams, u = (A i).name) (hi : i ≤ n) :
    ¬ p.ReachesCycle (A i).name.text := by
  induction i with
  | zero => exact fun hcycle => h.not_unresolved_start hcycle.unresolved
  | succ i ih =>
    intro hcycle
    obtain ⟨m, ⟨a, ha, -, hm, -⟩, hrest⟩ := hcycle.exists_awaits
    obtain rfl := Option.some.inj ((h.asset?_eq hi).symm.trans ha)
    obtain ⟨u, hu, rfl⟩ := List.mem_map.mp hm
    rw [honly i hi u hu] at hrest
    exact ih (Nat.le_of_succ_le hi) hrest

end StarChain

end Pipeline

namespace Resolver

variable {r : Resolver} {p : Pipeline} {roots order : List String} {A : Nat → Asset} {n i : Nat}

/-- An asset that reads all columns of another is left with copies of them, if the other has its
columns by then: it is listed, or is not analyzed at all. -/
theorem Analyzes.asset?_starQuery {a up : Asset} {cs : List Column} (ho : Analyzes p roots order)
    (hr : r.analyze = Sql.columnLineage) (hreads : a.ReadsAll up.name)
    (ha : p.asset? a.name.text = some a) (hmem : a.name.text ∈ order)
    (hup : (r.attemptAll p order).asset? up.name.text = some { up with columns := cs })
    (hcolumns : Column.Proper cs) (hne : cs ≠ []) (hfinds : r.Finds p up.name a)
    (hearly : up.name ∈ a.upstreams ∨ up.name.text ∉ order) :
    (r.attemptAll p order).asset? a.name.text =
      some { a with columns := cs.map (Column.passedOn up.name.text) } := by
  obtain ⟨before, after, rfl⟩ := List.append_of_mem hmem
  have hlate : up.name.text ∉ a.name.text :: after := by
    rcases hearly with hlists | hnever
    · exact ho.settled ha (List.mem_map_of_mem hlists)
    · exact fun hmem => hnever (List.mem_append_right _ hmem)
  have hfinds : r.Finds (r.attemptAll p before) up.name a := by
    rwa [Finds, names_attemptAll]
  have hderived := @derived_starQuery r _ a { up with columns := cs } hr hreads
    (ho.asset?_fresh.trans ha) ((asset?_before hlate).trans hup) hcolumns hne hfinds
  rw [ho.asset?_result ha, hderived]

/-- All assets of a chain are analyzed with the last. -/
theorem Analyzes.mem_of_starChain (ho : Analyzes p roots order) (h : p.StarChain A n)
    (hlast : p.Unresolved (A n).name.text → (A n).name.text ∈ order) (hi : i < n) :
    (A (i + 1)).name.text ∈ order := by
  -- the chain is followed from its end: `k` assets stand behind the one at hand
  have hback : ∀ k i, i + 1 + k = n → (A (i + 1)).name.text ∈ order := by
    intro k
    induction k with
    | zero =>
      rintro i rfl
      exact hlast (h.unresolved (Nat.lt_succ_self i))
    | succ k ih =>
      rintro i rfl
      obtain ⟨before, after, hsplit⟩ := List.append_of_mem (ih (i + 1) (by omega))
      have hbefore := ho.after_awaited before _ after hsplit _ (h.awaits (by omega))
      exact hsplit ▸ List.mem_append_left _ hbefore
  exact hback (n - (i + 1)) i (by omega)

/-- An asset of a chain gets the columns at the start. -/
theorem Analyzes.asset?_starChain (ho : Analyzes p roots order) (hr : r.analyze = Sql.columnLineage)
    (h : p.StarChain A n) (hstart : 0 < n → r.Finds p (A 0).name (A 1))
    (hlast : p.Unresolved (A n).name.text → (A n).name.text ∈ order) (hi : i < n) :
    (r.attemptAll p order).asset? (A (i + 1)).name.text = some { A (i + 1) with
      columns := (A 0).columns.map (Column.passedOn (A i).name.text) } := by
  have hfirst : (A 0).name.text ∉ order := fun hmem =>
    h.not_unresolved_start (ho.reached _ hmem).1
  induction i with
  | zero =>
    have hup : (r.attemptAll p order).asset? (A 0).name.text = some (A 0) :=
      (asset?_attemptAll_of_not_mem hfirst).trans (h.asset?_eq (Nat.zero_le n))
    exact ho.asset?_starQuery hr (h.reads 0 hi) (h.asset?_eq hi) (ho.mem_of_starChain h hlast hi)
      hup h.proper h.declared (hstart hi) (.inr hfirst)
  | succ i ih =>
    have hlists := h.lists (i + 1) hi (Nat.succ_pos i)
    have hcopy := ho.asset?_starQuery hr (h.reads (i + 1) hi) (h.asset?_eq hi)
      (ho.mem_of_starChain h hlast hi) (ih (Nat.lt_of_succ_lt hi)) h.proper.map_passedOn
      (by simpa using h.declared) (.inl hlists) (.inl hlists)
    simpa only [List.map_map, Function.comp_def, Column.passedOn_passedOn] using hcopy

/-- **Stars pass columns on along chains of any length**: if each asset of a chain reads all columns
of the one before it and has none of its own, resolving the last leaves each with the columns at the
start, in their order. Whether columns are known beforehand makes no difference, as long as each
asset lists the one before it; the second asset need not if nothing is known beforehand. Resolving
fails only on cycles, which a chain of assets that list nothing else does not lead to. -/
theorem star_passthrough (r : Resolver) (hr : r.analyze = Sql.columnLineage) (p : Pipeline)
    (A : Nat → Asset) (n : Nat) (h : p.StarChain A n)
    (hstart : 0 < n → r.Finds p (A 0).name (A 1)) :
    let result := r.columnLineage p (A n).name.text
    (¬ p.ReachesCycle (A n).name.text → result.1 = .ok () ∧
      result.2.asset? (A 0).name.text = some (A 0) ∧
      ∀ i < n, result.2.asset? (A (i + 1)).name.text = some { A (i + 1) with
        columns := (A 0).columns.map (Column.passedOn (A i).name.text) }) ∧
    ((∀ i < n, ∀ u ∈ (A (i + 1)).upstreams, u = (A i).name) →
      ¬ p.ReachesCycle (A n).name.text) := by
  intro result
  refine ⟨fun hcycle => ?_, fun honly => h.not_reachesCycle honly (Nat.le_refl n)⟩
  have hok : result.1 = .ok () :=
    (failsOnCycles_columnLineage r p (A n).name.text).ok_iff.mpr (by simpa using hcycle)
  obtain ⟨ho, hresult, hlast⟩ := ordered_columnLineage r p (A n).name.text
  have hfirst : (A 0).name.text ∉ analyzedBy p _ := fun hmem =>
    h.not_unresolved_start (ho.reached _ hmem).1
  refine ⟨hok, ?_, fun i hi => ?_⟩
  · rw [hresult, asset?_attemptAll_of_not_mem hfirst, h.asset?_eq (Nat.zero_le n)]
  · rw [hresult]
    exact ho.asset?_starChain hr h hstart (hlast hok) hi

def clients : Asset where
  name := ⟨"clients", by decide⟩
  type := "python"
  columns := [
    { name := "id", type := "int", primaryKey := true, checks := [{ name := "not_null" }] },
    { name := "email", type := "varchar", description := "Where to write to",
      entityAttribute := some ⟨"Client", "Email"⟩, updateOnMerge := true }]

def stagedClients : Asset where
  name := ⟨"stg_clients", by decide⟩
  type := "duckdb.sql"
  sql := "select * from clients"
  upstreams := [clients.name]

def clientMart : Asset where
  name := ⟨"mart", by decide⟩
  type := "bq.sql"
  sql := "select * from stg_clients"
  upstreams := [stagedClients.name]

/-- Clients with columns, and two assets that pass them on. -/
def clientChain (i : Nat) : Asset :=
  [clients, stagedClients].getD i clientMart

def clientPipeline : Pipeline where
  config := { name := "shop" }
  root := "."
  assets := [clientMart, stagedClients, clients]
  unique := by decide

theorem starChain_clients : clientPipeline.StarChain clientChain 2 := by
  constructor
  case mem =>
    intro i hi
    obtain rfl | rfl | rfl : i = 0 ∨ i = 1 ∨ i = 2 := by omega
    all_goals simp [clientPipeline, clientChain]
  case declared => exact List.cons_ne_nil _ _
  case proper => constructor <;> decide
  case reads =>
    intro i hi
    obtain rfl | rfl : i = 0 ∨ i = 1 := by omega
    · exact ⟨rfl, by decide +kernel, .duckDb, rfl, by decide +kernel⟩
    · exact ⟨rfl, by decide +kernel, .bigQuery, rfl, by decide +kernel⟩
  case lists =>
    intro i hi hpos
    obtain rfl : i = 1 := by omega
    exact List.mem_singleton_self _

/-- The last asset has both columns of the clients, from the asset between them. -/
theorem mart_of_clients : clientPipeline.StarChain clientChain 2 ∧
    let result := ({} : Resolver).columnLineage clientPipeline (clientChain 2).name.text
    result.1 = .ok () ∧
      (result.2.asset? (clientChain 2).name.text).map (·.columns) = some [
        { name := "id", type := "int", provenance := [⟨"stg_clients", "id", "stg_clients"⟩] },
        { name := "email", type := "varchar", entityAttribute := some ⟨"Client", "Email"⟩,
          updateOnMerge := true,
          provenance := [⟨"stg_clients", "email", "stg_clients"⟩] }] := by
  obtain ⟨hcopies, hacyclic⟩ := star_passthrough {} rfl clientPipeline clientChain 2
    starChain_clients fun _ => .inl (List.mem_singleton_self _)
  have honly : ∀ i < 2, ∀ u ∈ (clientChain (i + 1)).upstreams, u = (clientChain i).name := by
    intro i hi
    obtain rfl | rfl : i = 0 ∨ i = 1 := by omega
    · exact fun u hu => List.mem_singleton.mp hu
    · exact fun u hu => List.mem_singleton.mp hu
  obtain ⟨hok, -, hall⟩ := hcopies (hacyclic honly)
  refine ⟨starChain_clients, hok, ?_⟩
  rw [hall 1 (by decide)]
  rfl

end Resolver

end AssetFlow
