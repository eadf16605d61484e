import AssetFlow.Proofs.Lineage.Infer
import AssetFlow.Proofs.Lineage.Known
import AssetFlow.Proofs.Lineage.Merge

/-!
# Which asset a table reference means

A table reference is looked up three times: for the upstreams of the asset, in the known tables, and
when lineage is merged. The first two do not mind the case of letters, the third does, and takes a
table that it does not find for one outside the pipeline, whose name goes into the edge in lower
case. So the lookups agree if the table is known or the reference is written as the name of the
asset, and otherwise only if the name is in lower case (`Pipeline.agrees_iff`).

## Main definitions

- `Pipeline.edgeAsset`: the asset of the edges to a table
- `Asset.LeadsTo`: the table reference that an edge comes from
- `Pipeline.Agrees`: an edge means the asset that the table reference means

## Main statements

- `Resolver.lookups_agree`: when the edges of a resolved pipeline mean what the references do
-/

namespace AssetFlow

open Sql (ColumnRef Output Schema)

/-! ### Edges that merging leaves -/

/-- Each edge that a contribution may leave has a property. -/
def Contribution.Leaves (P : ColumnEdge → Prop) (x : Contribution) : Prop :=
  match x.upstream with
  | some u => P ⟨u, x.source.name, u⟩
  | none => ∀ e ∈ x.source.provenance, P e

namespace Asset

variable {P : ColumnEdge → Prop} {a b : Asset} {x : Contribution} {xs : List Contribution}

/-- All edges of the columns have a property. -/
def EdgesAll (P : ColumnEdge → Prop) (a : Asset) : Prop :=
  ∀ c ∈ a.columns, ∀ e ∈ c.provenance, P e

/-- An extended column keeps to a property of edges that the old one and the contribution have. -/
theorem all_extend_some {old : Column} (hx : x.Leaves P) (hold : ∀ e ∈ old.provenance, P e) :
    ∀ e ∈ (x.extend (some old)).provenance, P e := by
  rw [Contribution.Leaves] at hx
  rw [Contribution.extend]
  split
  · next u hu =>
    rw [hu] at hx
    rw [Provenance.push]
    split
    · exact hold
    · exact List.forall_mem_append.mpr ⟨hold, List.forall_mem_singleton.mpr hx⟩
  · exact hold

/-- A new column keeps to a property of edges that the contribution has. -/
theorem all_extend_none (hx : x.Leaves P) : ∀ e ∈ (x.extend none).provenance, P e := by
  rw [Contribution.Leaves] at hx
  rw [Contribution.extend]
  split
  · next u hu =>
    rw [hu] at hx
    exact List.forall_mem_singleton.mpr hx
  · next hu =>
    rw [hu] at hx
    exact hx

theorem forall_mem_go {Q : Column → Prop} {f : Column → Column} {name : String} {cs : List Column}
    (h : ∀ c ∈ cs, Q c) (hf : ∀ c, Q c → Q (f c)) : ∀ c ∈ updateColumn.go name f cs, Q c := by
  induction cs with
  | nil => exact h
  | cons d cs ih =>
    obtain ⟨hd, hcs⟩ := List.forall_mem_cons.mp h
    rw [updateColumn.go]
    split
    · exact List.forall_mem_cons.mpr ⟨hf d hd, hcs⟩
    · exact List.forall_mem_cons.mpr ⟨hd, ih hcs⟩

/-- Merging keeps to a property of edges that the asset and the contribution have. -/
theorem EdgesAll.merge (ha : a.EdgesAll P) (hx : x.Leaves P) (h : a.merge x = .ok b) :
    b.EdgesAll P := by
  rw [merge_eq] at h
  split at h
  · cases h
  split at h
  · exact Except.ok.inj h ▸ ha
  split at h
  · obtain rfl := Except.ok.inj h
    exact forall_mem_go ha fun c hc => all_extend_some hx hc
  · obtain rfl := Except.ok.inj h
    exact List.forall_mem_append.mpr ⟨ha, List.forall_mem_singleton.mpr (all_extend_none hx)⟩

/-- Merging contributions keeps to a property of edges that all of them have. -/
theorem EdgesAll.foldlM_merge (ha : a.EdgesAll P) (hxs : ∀ x ∈ xs, x.Leaves P)
    (h : xs.foldlM Asset.merge a = .ok b) : b.EdgesAll P := by
  induction xs generalizing a with
  | nil => exact Except.ok.inj h ▸ ha
  | cons x xs ih =>
    rw [List.foldlM_cons] at h
    obtain ⟨a', hstep, hrest⟩ := exists_of_bind_eq_ok h
    obtain ⟨hx, hxs⟩ := List.forall_mem_cons.mp hxs
    exact ih (ha.merge hx hstep) hxs hrest

end Asset

/-! ### Lookups -/

section matchAsset

variable {names : List AssetName} {n m : AssetName} {w : String}

/-- A table that is spelled as an asset is matched with this asset. -/
theorem matchAsset_text (hn : n ∈ names) : matchAsset names n.text = some n := by
  rw [matchAsset]
  cases h : names.find? (·.text == n.text) with
  | none => exact absurd (beq_self_eq_true n.text) (List.find?_eq_none.mp h n hn)
  | some m =>
    have htext : m.text = n.text := by simpa using List.find?_some h
    rw [AssetName.eq_of_text_eq htext]

/-- A table is matched with an asset of its name up to ASCII case. -/
theorem equals_of_matchAsset (h : matchAsset names w = some n) :
    Text.equalsIgnoringAsciiCase n.text w = true := by
  rw [matchAsset] at h
  split at h
  · next m hm =>
    obtain rfl := Option.some.inj h
    have htext : m.text = w := by simpa using List.find?_some hm
    exact htext ▸ Text.equalsIgnoringAsciiCase_refl _
  · simpa using List.find?_some h

/-- A table that has the name of an asset up to ASCII case is matched with one. -/
theorem exists_matchAsset (hn : n ∈ names) (h : Text.equalsIgnoringAsciiCase n.text w = true) :
    ∃ m, matchAsset names w = some m := by
  rw [matchAsset]
  cases names.find? (·.text == w) with
  | some m => exact ⟨m, rfl⟩
  | none =>
    refine Option.isSome_iff_exists.mp (List.find?_isSome.mpr ⟨n, hn, h⟩)

end matchAsset

namespace Pipeline

variable {p q : Pipeline} {a b : Asset} {n : AssetName} {w t : String} {known : Schema}
  {lineage : List Output}

theorem isSome_asset?_iff : (p.asset? t).isSome ↔ t ∈ p.names.map AssetName.text := by
  constructor
  · intro h
    obtain ⟨a, ha⟩ := Option.isSome_iff_exists.mp h
    exact text_mem_names_of_asset? ha
  · intro h
    obtain ⟨n, hn, rfl⟩ := List.mem_map.mp h
    obtain ⟨a, ha, -⟩ := asset?_of_mem_names hn
    exact Option.isSome_iff_exists.mpr ⟨a, ha⟩

/-- The asset of the edges to a table. -/
def edgeAsset (p : Pipeline) (table : String) : String :=
  if table ∈ p.names.map AssetName.text then table else Text.lower table

/-- An edge means the asset that the table reference `w` means, if it means an asset up to case. -/
def Agrees (p : Pipeline) (w edge : String) : Prop :=
  (∃ n ∈ p.names, Text.equalsIgnoringAsciiCase n.text edge = true) →
    ∃ m, matchAsset p.names w = some m ∧ m.text = edge

/-- No two names are equal to the table reference up to case. -/
def Distinguishes (p : Pipeline) (w : String) : Prop :=
  ∀ n ∈ p.names, ∀ m ∈ p.names, Text.equalsIgnoringAsciiCase n.text w = true →
    Text.equalsIgnoringAsciiCase m.text w = true → n = m

instance (p : Pipeline) (w edge : String) : Decidable (p.Agrees w edge) :=
  decidable_of_iff ((∃ n ∈ p.names, Text.equalsIgnoringAsciiCase n.text edge = true) →
      (matchAsset p.names w).any (·.text == edge) = true) <|
    imp_congr_right fun _ => by simp [Option.any_eq_true]

instance (p : Pipeline) (w : String) : Decidable (p.Distinguishes w) :=
  inferInstanceAs (Decidable (∀ n ∈ p.names, ∀ m ∈ p.names, _))

/-- A table that only one asset can mean is matched with this asset. -/
theorem Distinguishes.matchAsset_eq (h : p.Distinguishes w) (hn : n ∈ p.names)
    (hcase : Text.equalsIgnoringAsciiCase n.text w = true) : matchAsset p.names w = some n := by
  obtain ⟨m, hm⟩ := exists_matchAsset hn hcase
  rw [hm, h m (mem_of_matchAsset hm) n hn (equals_of_matchAsset hm) hcase]

/-- **When the lookups agree**: the table is known, or the reference is written as the name of an
asset, or no asset has the name that goes into the edge up to case but the one that the reference
means, which has it exactly. -/
theorem agrees_iff (hknown : known.Within (p.names.map AssetName.text)) (h : p.Distinguishes w) :
    p.Agrees w (p.edgeAsset (known.registered w)) ↔
      known.contains w = true ∨ (p.asset? w).isSome ∨
      ∀ n ∈ p.names, Text.equalsIgnoringAsciiCase n.text (Text.lower w) = true →
        n.text = Text.lower w ∧ Text.equalsIgnoringAsciiCase n.text w = true := by
  cases hfind : known.find? w with
  | some t =>
    obtain ⟨htable, hcase⟩ := Schema.find?_eq_some hfind
    have hmem := hknown t htable
    obtain ⟨n, hn, hname⟩ := List.mem_map.mp hmem
    have hedge : p.edgeAsset (known.registered w) = n.text := by
      rw [Schema.registered, hfind, edgeAsset, if_pos hmem, hname]
    rw [hedge]
    rw [← hname] at hcase
    exact iff_of_true (fun _ => ⟨n, h.matchAsset_eq hn hcase, rfl⟩)
      (.inl (by rw [Schema.contains, hfind]; rfl))
  | none =>
    have hunknown : known.contains w = false := by
      rw [Schema.contains, hfind]
      rfl
    have hregistered : known.registered w = w := by rw [Schema.registered, hfind]
    rw [hregistered, hunknown, isSome_asset?_iff, edgeAsset]
    split
    · next hmem =>
      obtain ⟨n, hn, rfl⟩ := List.mem_map.mp hmem
      exact iff_of_true (fun _ => ⟨n, matchAsset_text hn, rfl⟩) (.inr (.inl hmem))
    · next hmem =>
      simp only [hmem, Bool.false_eq_true, false_or]
      constructor
      · intro hagrees n hn hlower
        obtain ⟨m, hmatch, hm⟩ := hagrees ⟨n, hn, hlower⟩
        have hcase := equals_of_matchAsset hmatch
        have hsame : Text.equalsIgnoringAsciiCase n.text w = true := by
          rw [Text.equalsIgnoringAsciiCase_iff] at hlower hcase ⊢
          rw [hlower, ← hm, hcase]
        obtain rfl := h n hn m (mem_of_matchAsset hmatch) hsame hcase
        exact ⟨hm, hsame⟩
      · rintro hlower ⟨n, hn, hcase⟩
        obtain ⟨hname, hsame⟩ := hlower n hn hcase
        exact ⟨n, h.matchAsset_eq hn hsame, hname⟩

/-- The edges that a merge leaves are those to the tables of the lineage. -/
theorem edgesAll_of_merged (ha : a.columns = []) (h : p.mergeLineage a lineage = .ok b) :
    b.EdgesAll fun e => ∃ o ∈ lineage, ∃ r ∈ o.sources, e.asset = p.edgeAsset r.table := by
  rw [mergeLineage_eq] at h
  refine Asset.EdgesAll.foldlM_merge (a := a) ?_ (fun x hx => ?_) h
  · rw [Asset.EdgesAll, ha]
    exact fun c hc => nomatch hc
  -- a contribution leaves an edge to the asset that the table is, or to the table in lower case
  have hasset : ∀ o ∈ lineage, ∀ r ∈ o.sources, ∀ up, p.asset? r.table = some up →
      ∃ o ∈ lineage, ∃ r ∈ o.sources, up.name.text = p.edgeAsset r.table := by
    intro o ho r hr up hup
    have hmem := text_mem_names_of_asset? hup
    exact ⟨o, ho, r, hr, by rw [edgeAsset, if_pos hmem, (asset?_eq_some hup).2]⟩
  obtain ⟨o, ho, hx⟩ := List.mem_flatMap.mp hx
  rw [outputContributions] at hx
  split at hx
  · obtain ⟨r, hr, hx⟩ := List.mem_flatMap.mp hx
    rw [wildcardContributions] at hx
    split at hx
    · cases hx
    · cases hup : p.asset? r.table with
      | none =>
        rw [hup] at hx
        cases hx
      | some up =>
        rw [hup] at hx
        obtain ⟨c, -, rfl⟩ := List.mem_map.mp hx
        exact hasset o ho r hr up hup
  · obtain ⟨r, hr, hx⟩ := List.mem_flatMap.mp hx
    rw [referenceContributions] at hx
    split at hx
    · cases hx
    · cases hup : p.asset? r.table with
      | none =>
        rw [hup] at hx
        obtain rfl := List.mem_singleton.mp hx
        have hno : r.table ∉ p.names.map AssetName.text := fun hmem => by
          rw [← isSome_asset?_iff, hup] at hmem
          cases hmem
        have hedge : Text.lower r.table = p.edgeAsset r.table := by rw [edgeAsset, if_neg hno]
        exact List.forall_mem_singleton.mpr ⟨o, ho, r, hr, hedge⟩
      | some up =>
        rw [hup] at hx
        obtain rfl := List.mem_singleton.mp hx
        exact hasset o ho r hr up hup

end Pipeline

/-! ### Resolved pipelines -/

/-- The edge comes from the table reference `w` in the SQL of the asset. -/
def Asset.LeadsTo (a : Asset) (p : Pipeline) (known : Schema) (w : String) (e : ColumnEdge) :
    Prop :=
  w ∈ a.freeTables ∧ e.asset = p.edgeAsset (known.registered w)

/-- The table is among those that the SQL of the asset mentions. -/
def Asset.Mentions (a : Asset) (table : String) : Prop :=
  ∃ d tables, Sql.Dialect.ofAssetType? a.type = some d ∧
    Sql.referencedTables d a.sql = .ok tables ∧ table ∈ tables

namespace Resolver

variable {r : Resolver} {p q q' : Pipeline} {x : Except LineageError Unit} {a b up : Asset}
  {c : Column} {e : ColumnEdge} {roots order : List String} {w : String} {found : Nat}
  {m : AssetName}

/-- Each edge that analyzing assets adds comes from a table reference. -/
theorem Analyzes.exists_leadsTo (h : Analyzes p roots order) (hr : r.analyze = Sql.columnLineage)
    (ha : a ∈ p.assets) (hb : b ∈ (r.attemptAll p order).assets) (hname : b.name = a.name)
    (hc : c ∈ b.columns) (hnew : c ∉ a.columns) (he : e ∈ c.provenance) :
    ∃ w, a.LeadsTo p (r.schemaFor (r.attemptAll p order) a) w e := by
  have hpa := Pipeline.asset?_of_mem ha
  have hresult := Pipeline.asset?_of_mem hb
  rw [hname] at hresult
  by_cases hmem : a.name.text ∈ order
  · obtain ⟨⟨a', ha', hempty⟩, -⟩ := h.reached _ hmem
    obtain rfl := Option.some.inj (hpa.symm.trans ha')
    obtain ⟨before, after, rfl⟩ := List.append_of_mem hmem
    rw [h.asset?_result hpa] at hresult
    obtain rfl := Option.some.inj hresult
    rw [← h.schemaFor_eq hpa]
    dsimp only [derived] at hc
    split at hc
    · next found hfound =>
      obtain ⟨d, lineage, hd, hlineage, hmerge⟩ := derive_eq_ok hfound
      rw [hr] at hlineage
      obtain ⟨o, ho, y, hy, hedge⟩ := Pipeline.edgesAll_of_merged hempty hmerge c hc e he
      obtain ⟨w, hw, htable⟩ := Asset.exists_freeTable hd hlineage ho hy
      refine ⟨w, hw, ?_⟩
      rw [hedge, htable, Pipeline.edgeAsset, Pipeline.edgeAsset, names_attemptAll]
    · exact absurd hc hnew
  · rw [asset?_attemptAll_of_not_mem hmem, hpa] at hresult
    exact absurd (Option.some.inj hresult ▸ hc) hnew

/-- A table is known that means an upstream with columns. -/
theorem contains_of_upstream (hm : matchAsset p.names w = some m) (hup : m ∈ a.upstreams)
    (hasset : q.asset? m.text = some up) (hcolumns : ∃ c ∈ up.columns, c.name ≠ "") :
    (r.schemaFor q a).contains w = true := by
  obtain ⟨c, hc, hname⟩ := hcolumns
  have hnamed : Schema.named up.schemaColumns ≠ [] := by
    refine List.ne_nil_of_mem (a := ⟨c.name, c.type⟩) (List.mem_filter.mpr ⟨?_, ?_⟩)
    · exact List.mem_map.mpr ⟨c, hc, rfl⟩
    · simpa using hname
  have hexact : (r.schemaFor q a).tableNamed? m.text =
      some ⟨up.name.text, Schema.named up.schemaColumns⟩ := by
    rw [tableNamed?_schemaFor, if_pos (List.mem_map_of_mem hup), hasset, Option.bind_some,
      Asset.table?, if_neg hnamed]
    rfl
  have htable : (⟨up.name.text, Schema.named up.schemaColumns⟩ : Sql.SchemaTable) ∈
      (r.schemaFor q a).tables := List.mem_of_find?_eq_some hexact
  have hcase := equals_of_matchAsset hm
  rw [← (Pipeline.asset?_eq_some hasset).2] at hcase
  rw [Schema.contains, Schema.find?]
  split
  · rfl
  · exact List.find?_isSome.mpr ⟨_, htable, hcase⟩

/-- **When the edges of a resolved pipeline mean what the table references do** that they come from,
with or without the columns known beforehand: if the table is known or written as the name of an
asset. All tables are known that mean an upstream that was inferred and has columns. Otherwise the
name goes into the edge in lower case, and means the asset only if its name is written so. -/
theorem lookups_agree (hinfer : p.inferUpstreams = (q, found))
    (hr : r = {} ∨ r = ({} : Resolver).addColumns q) (hrun : r.resolveAll q = (x, q'))
    (ha : a ∈ q.assets) (hb : b ∈ q'.assets) (hname : b.name = a.name) (hc : c ∈ b.columns)
    (hnew : c ∉ a.columns) (he : e ∈ c.provenance) :
    (∃ w, a.LeadsTo q (r.schemaFor q' a) w e) ∧
    ∀ w, a.LeadsTo q (r.schemaFor q' a) w e → q.Distinguishes w →
      (q.Agrees w e.asset ↔ (r.schemaFor q' a).contains w = true ∨ (q.asset? w).isSome ∨
        ∀ n ∈ q.names, Text.equalsIgnoringAsciiCase n.text (Text.lower w) = true →
          n.text = Text.lower w ∧ Text.equalsIgnoringAsciiCase n.text w = true) ∧
      (∀ m up, matchAsset q.names w = some m → m ≠ a.name → a.Mentions w →
        q'.asset? m.text = some up → (∃ c ∈ up.columns, c.name ≠ "") → q.Agrees w e.asset) := by
  obtain ⟨horder, hresult, -⟩ := ordered_resolveAll r q
  rw [hrun] at hresult
  generalize analyzedBy q _ = order at horder hresult
  obtain rfl : q' = r.attemptAll q order := hresult
  have hanalyze : r.analyze = Sql.columnLineage := by rcases hr with rfl | rfl <;> rfl
  have hwithin : r.schema.Within (q.names.map AssetName.text) := by
    rcases hr with rfl | rfl
    · exact Schema.within_empty
    · exact within_addColumns
  have hknown := @within_schemaFor_attemptAll r q a order hwithin
  refine ⟨horder.exists_leadsTo hanalyze ha hb hname hc hnew he, ?_⟩
  rintro w ⟨-, hedge⟩ hdistinct
  have hiff := Pipeline.agrees_iff hknown hdistinct
  rw [← hedge] at hiff
  refine ⟨hiff, fun m up hmatch hother hmentions hasset hcolumns => hiff.mpr (.inl ?_)⟩
  obtain ⟨d, tables, hd, htables, hw⟩ := hmentions
  obtain rfl : p.inferUpstreams.1 = q := congrArg Prod.fst hinfer
  have hnames : p.inferUpstreams.1.names = p.names := Pipeline.names_mapAssets
  have hrefers : p.RefersTo a a.sql m :=
    ⟨hother, d, tables, hd, htables, w, hw, hnames ▸ hmatch⟩
  exact contains_of_upstream hmatch (hrefers.mem_upstreams ha) hasset hcolumns

/-- The name of the orders, and a report that reads them under a name. -/
def ordersName : AssetName := ⟨"Orders", by decide⟩

def reportOn (table : String) (upstreams : List AssetName) : Asset :=
  { name := RunPlan.report, type := "duckdb.sql", sql := "select id from " ++ table, upstreams }

/-- Orders with some columns, and a report on them. -/
def ordersReport (table : String) (columns : List Column) (upstreams : List AssetName) :
    Pipeline where
  config := { name := "shop" }
  root := "."
  assets := [{ name := ordersName, type := "python", columns }, reportOn table upstreams]
  unique := by simp [ordersName, reportOn, RunPlan.report]

theorem matchAsset_orders {table : String} (hreport : table ≠ "report")
    (hcase : Text.equalsIgnoringAsciiCase "Orders" table = true) :
    matchAsset [ordersName, (reportOn table []).name] table = some ordersName := by
  by_cases hname : table = "Orders"
  · simp [matchAsset, ordersName, hname]
  · simp [matchAsset, ordersName, reportOn, RunPlan.report, hcase, Ne.symm hname, Ne.symm hreport]

theorem infer_ordersReport {table : String} {columns : List Column} (hreport : table ≠ "report")
    (hcase : Text.equalsIgnoringAsciiCase "Orders" table = true)
    (htables : (Sql.referencedTables .duckDb ("select id from " ++ table)).toOption.any
      (fun tables => decide (tables = [table])) = true) :
    (ordersReport table columns []).inferUpstreams =
      (ordersReport table columns [ordersName], 1) := by
  obtain ⟨tables, hok, htables⟩ := Sql.exists_ok_of_any htables
  obtain rfl := of_decide_eq_true htables
  have hnone : Asset.readAssets Sql.referencedTables [ordersName, (reportOn table []).name]
      { name := ordersName, type := "python", columns } = [] := rfl
  have hsome : Asset.readAssets Sql.referencedTables [ordersName, (reportOn table []).name]
      (reportOn table []) = [ordersName] := by
    have hduck : Sql.Dialect.ofAssetType? "duckdb.sql" = some .duckDb := rfl
    have hread : ∀ names, matchAsset names table = some ordersName →
        (reportOn table []).readAssets Sql.referencedTables names = [ordersName] := by
      intro names h
      simp [Asset.readAssets, reportOn, ordersName, RunPlan.report, hduck, hok, h]
    exact hread _ (matchAsset_orders hreport hcase)
  have hinferred : (ordersReport table columns []).inferUpstreamsWith Sql.referencedTables =
      ordersReport table columns [ordersName] := by
    simp only [Pipeline.inferUpstreamsWith, Pipeline.mapAssets, Pipeline.names, ordersReport,
      List.map_cons, List.map_nil, hnone, hsome]
    rfl
  have hcount : (ordersReport table columns []).assets.foldl (fun n a => n + a.countAdded
      (a.readAssets Sql.referencedTables (ordersReport table columns []).names)) 0 = 1 := by
    simp only [Pipeline.names, ordersReport, List.map_cons, List.map_nil, List.foldl_cons,
      List.foldl_nil, hnone, hsome]
    rfl
  rw [Pipeline.inferUpstreams, hinferred, hcount]

/-- The orders are read under their name, and the edge means them. -/
theorem orders_meant : ∃ b, (({} : Resolver).resolveAll
      (ordersReport "Orders" [{ name := "id" }] [ordersName])).2.asset? "report" = some b ∧
    ∃ c ∈ b.columns, ∃ e ∈ c.provenance, e.asset = "Orders" ∧
      (ordersReport "Orders" [{ name := "id" }] [ordersName]).Agrees "Orders" e.asset := by
  have hinfer := @infer_ordersReport "Orders" [{ name := "id" }] (by decide) (by decide +kernel)
    (by decide +kernel)
  have hread : (reportOn "Orders" [ordersName]).freeTables = ["Orders"] := by decide +kernel
  have hedge : ((({} : Resolver).resolveAll
      (ordersReport "Orders" [{ name := "id" }] [ordersName])).2.asset? "report").any (fun b =>
        b.columns.any fun c => c.provenance.any fun e => e.asset == "Orders") = true := by
    decide +kernel
  obtain ⟨b, hb, hedge⟩ := (Option.any_eq_true ..).mp hedge
  simp only [List.any_eq_true, beq_iff_eq] at hedge
  obtain ⟨c, hc, e, he, hasset⟩ := hedge
  obtain ⟨hbMem, hbName⟩ := Pipeline.asset?_eq_some hb
  obtain ⟨⟨w, hw, hwasset⟩, hagrees⟩ := lookups_agree (r := {})
    (a := reportOn "Orders" [ordersName]) hinfer (.inl rfl) (Prod.eta _).symm
    (by simp [ordersReport]) hbMem (AssetName.eq_of_text_eq hbName) hc (by simp [reportOn]) he
  obtain rfl : w = "Orders" := by simpa [hread] using hw
  exact ⟨b, hb, c, hc, e, he, hasset,
    (hagrees _ ⟨hw, hwasset⟩ (by decide +kernel)).1.mpr (.inr (.inl rfl))⟩

/-- **An edge that misses its asset**: without columns, the orders are not known, and the edge does
not mean the asset that the same reference was taken for. -/
theorem orders_missed :
    (ordersReport "orders" [] []).inferUpstreams = (ordersReport "orders" [] [ordersName], 1) ∧
    (reportOn "orders" [ordersName]).freeTables = ["orders"] ∧
    matchAsset (ordersReport "orders" [] [ordersName]).names "orders" = some ordersName ∧
    ∃ b, (({} : Resolver).resolveAll (ordersReport "orders" [] [ordersName])).2.asset? "report" =
        some b ∧
      ∃ c ∈ b.columns, ∃ e ∈ c.provenance, e.asset = "orders" ∧
        ¬ (ordersReport "orders" [] [ordersName]).Agrees "orders" e.asset := by
  have hcase : Text.equalsIgnoringAsciiCase "Orders" "orders" = true := by
    have hsame : "Orders".map Char.toLower = "orders" := by decide +kernel
    have hlower : "orders".map Char.toLower = "orders" := by decide +kernel
    rw [Text.equalsIgnoringAsciiCase_iff, hsame, hlower]
  have hmatch : matchAsset (ordersReport "orders" [] [ordersName]).names "orders" =
      some ordersName := matchAsset_orders (by decide) hcase
  have hedge : ((({} : Resolver).resolveAll
      (ordersReport "orders" [] [ordersName])).2.asset? "report").any (fun b =>
        b.columns.any fun c => c.provenance.any fun e => e.asset == "orders") = true := by
    decide +kernel
  obtain ⟨b, hb, hedge⟩ := (Option.any_eq_true ..).mp hedge
  simp only [List.any_eq_true, beq_iff_eq] at hedge
  obtain ⟨c, hc, e, he, hasset⟩ := hedge
  refine ⟨infer_ordersReport (by decide) hcase (by decide +kernel), by decide +kernel, hmatch, b,
    hb, c, hc, e, he, hasset, fun hagrees => ?_⟩
  obtain ⟨m, hm, htext⟩ := hagrees ⟨ordersName, by simp [Pipeline.names, ordersReport],
    hasset ▸ hcase⟩
  obtain rfl := Option.some.inj (hmatch.symm.trans hm)
  rw [hasset] at htext
  exact absurd htext (by decide)

end Resolver

end AssetFlow
