import AssetFlow.CommandLine.Session
import AssetFlow.Proofs.Lineage.Infer
import AssetFlow.Proofs.Run.Plan
import AssetFlow.Proofs.Template.Plain

/-!
# Templates and the order of a run

A run sends the SQL of an asset as it is rendered, but it takes the upstreams of the asset from the
SQL as it is written, while lineage is shown of the SQL as it is rendered. An asset that marks
nothing in its SQL is run after all that its SQL reads, and its lineage has the same upstreams. If a
table is mentioned in a way that only rendering makes plain, then the run does not know of it.

## Main definitions

- `RunConfig.shownSql`: the SQL that the lineage of an asset is found in

## Main statements

- `CommandLine.ordered_as_written`: the upstreams of an asset in a run and in its lineage
- `CommandLine.report_ahead_of_orders`: a run that does not wait for what it reads
-/

namespace AssetFlow

/-- The SQL that the lineage of an asset is found in. -/
def RunConfig.shownSql (c : RunConfig) (a : Asset) : String :=
  if a.isScript then a.sql else (c.renderSql a.sql).toOption.getD a.sql

namespace CommandLine

variable {p : Pipeline} {c : RunConfig} {previous : Option RunState} {plan : RunPlan} {a : Asset}
  {sql : String} {u : AssetName}

/-- The upstreams that the lineage of an asset is found with. -/
theorem exists_shown (c : RunConfig) (ha : a ∈ p.assets) :
    ∃ b ∈ (renderAll c p).inferUpstreams.1.assets, b.name = a.name ∧
      ∀ u, u ∈ b.upstreams ↔ u ∈ a.upstreams ∨ p.RefersTo a (c.shownSql a) u := by
  obtain ⟨b, hb, hname, -, hup⟩ := Pipeline.exists_inferred (p := renderAll c p)
    (Pipeline.mem_assets_mapAssets (f := fun a => if a.isScript then a else
      { a with sql := (c.renderSql a.sql).toOption.getD a.sql }) ha)
  refine ⟨b, hb, hname, fun u => (hup u).trans ?_⟩
  -- rendering changes nothing but the SQL
  have hnames : (renderAll c p).names = p.names := Pipeline.names_mapAssets
  simp only [Pipeline.RefersTo, hnames, RunConfig.shownSql]
  split <;> rfl

/-- Producing the data of an asset waits for producing that of its upstreams. -/
theorem waits_for_upstream {b : Asset} (hplan : RunPlan.build p c previous = .ok plan)
    (hb : b ∈ p.assets) (hu : u ∈ b.upstreams) {i j : Nat} {t t' : PlannedTask}
    (ht : plan.tasks[i]? = some t) (hid : t.id = ⟨b.name, .main⟩)
    (ht' : plan.tasks[j]? = some t') (hid' : t'.id = ⟨u, .main⟩) : j ∈ t.waitsFor := by
  have hmem : u ∈ p.names := by
    have hname := RunPlan.asset_mem_names hplan (List.mem_of_getElem? ht')
    rwa [hid'] at hname
  rw [RunPlan.mem_waitsFor_iff hplan ht]
  refine ⟨t', ht', ?_⟩
  rw [hid, hid']
  exact ⟨.inl rfl, .single ⟨hmem, b, hb, rfl, hu⟩⟩

/-- **The upstreams of an asset in a run** are those that it declares and those that its SQL refers
to as it is written; in its lineage they are those that it declares and those that its SQL refers to
when it is rendered. Producing the data of an asset waits for producing that of its upstreams. If
the SQL marks nothing, or refers to the same assets when it is rendered, then what it refers to when
it is rendered is among the upstreams in the run, and these are the same as in the lineage. -/
theorem ordered_as_written (hplan : RunPlan.build p.inferUpstreams.1 c previous = .ok plan)
    (ha : a ∈ p.assets) :
    ∃ inRun ∈ p.inferUpstreams.1.assets, ∃ shown ∈ (renderAll c p).inferUpstreams.1.assets,
      inRun.name = a.name ∧ inRun.sql = a.sql ∧ shown.name = a.name ∧
      (∀ u, u ∈ inRun.upstreams ↔ u ∈ a.upstreams ∨ p.RefersTo a a.sql u) ∧
      (∀ u, u ∈ shown.upstreams ↔ u ∈ a.upstreams ∨ p.RefersTo a (c.shownSql a) u) ∧
      (∀ u ∈ inRun.upstreams, ∀ (i j : Nat) (t t' : PlannedTask), plan.tasks[i]? = some t →
        t.id = ⟨a.name, .main⟩ → plan.tasks[j]? = some t' → t'.id = ⟨u, .main⟩ → j ∈ t.waitsFor) ∧
      (Template.Plain a.sql → c.renderSql a.sql = .ok a.sql) ∧
      ∀ text, c.renderSql a.sql = .ok text →
        (Template.Plain a.sql ∨ ∀ u, p.RefersTo a text u ↔ p.RefersTo a a.sql u) →
          (∀ u, p.RefersTo a text u → u ∈ inRun.upstreams) ∧
          ∀ u, u ∈ inRun.upstreams ↔ u ∈ shown.upstreams := by
  obtain ⟨inRun, hrun, hname, hsql, hup⟩ := Pipeline.exists_inferred ha
  obtain ⟨shown, hshown, hname', hup'⟩ := exists_shown c ha
  have hplain : Template.Plain a.sql → c.renderSql a.sql = .ok a.sql := fun h =>
    Template.render_of_plain h _
  refine ⟨inRun, hrun, shown, hshown, hname, hsql, hname', hup, hup', fun u hu i j t t' ht hid ht' hid' =>
    waits_for_upstream hplan hrun hu ht (hname ▸ hid) ht' hid', hplain, fun text htext halike => ?_⟩
  have hsame : ∀ u, p.RefersTo a text u ↔ p.RefersTo a a.sql u := by
    rcases halike with h | h
    · obtain rfl := Except.ok.inj ((hplain h).symm.trans htext)
      exact fun _ => Iff.rfl
    · exact h
  have hshownSql : c.shownSql a = text ∨ c.shownSql a = a.sql := by
    rw [RunConfig.shownSql, htext]
    split
    · exact .inr rfl
    · exact .inl rfl
  refine ⟨fun u hu => (hup u).mpr (.inr ((hsame u).mp hu)), fun u => ?_⟩
  rw [hup, hup']
  rcases hshownSql with heq | heq
  · rw [heq, hsame]
  · rw [heq]

/-! ### A run that waits for what it reads -/

open RunPlan (orders report plainConfig)

theorem eq_ok_of_toOption {ε α : Type} {x : Except ε α} {a : α} (h : x.toOption = some a) :
    x = .ok a := by
  cases x with
  | error e => cases h
  | ok b => exact congrArg Except.ok (Option.some.inj h)

theorem exists_error_of_toOption {ε α : Type} {x : Except ε α} (h : x.toOption = none) :
    ∃ e, x = .error e := by
  cases x with
  | error e => exact ⟨e, rfl⟩
  | ok b => cases h

/-- SQL that mentions a table as it is written. -/
def plainSql : String := "select * from orders"

/-- SQL that mentions the same table only when it is rendered. -/
def hiddenSql : String := "select * from {% if true %}orders{% endif %}"

/-- A pipeline of two assets, of which the second one has the given SQL and upstreams. -/
def pipelineReading (sql : String) (upstreams : List AssetName) : Pipeline where
  config := { name := "shop" }
  root := "."
  assets := [{ name := orders, type := "duckdb.sql", sql := "select 1 as id" },
    { name := report, type := "duckdb.sql", sql, upstreams }]
  unique := show [orders, report].Nodup by decide

theorem tables_orders : Sql.referencedTables .duckDb "select 1 as id" = .ok [] :=
  eq_ok_of_toOption (by decide +kernel)

theorem tables_report : Sql.referencedTables .duckDb plainSql = .ok ["orders"] :=
  eq_ok_of_toOption (by decide +kernel)

/-- The upstreams of the second asset are what its SQL is found to read. -/
theorem inferUpstreams_pipelineReading {sql : String} {found : List AssetName}
    (hread : ({ name := report, type := "duckdb.sql", sql } : Asset).readAssets
      Sql.referencedTables [orders, report] = found)
    (hfound : found = [] ∨ found = [orders]) :
    (pipelineReading sql []).inferUpstreams.1 = pipelineReading sql found := by
  have horders : ({ name := orders, type := "duckdb.sql", sql := "select 1 as id" } :
      Asset).readAssets Sql.referencedTables [orders, report] = [] := by
    have hdialect : Sql.Dialect.ofAssetType? "duckdb.sql" = some .duckDb := rfl
    simp [Asset.readAssets, hdialect, tables_orders]
  have hnames : (pipelineReading sql []).names = [orders, report] := rfl
  simp only [Pipeline.inferUpstreams, Pipeline.inferUpstreamsWith, hnames]
  simp only [Pipeline.mapAssets, pipelineReading, List.map_cons, List.map_nil, horders, hread]
  rcases hfound with rfl | rfl <;> rfl

theorem build_reading : RunPlan.build (pipelineReading plainSql [orders]) plainConfig none =
    .ok ⟨[⟨⟨orders, .main⟩, []⟩, ⟨⟨report, .main⟩, [0]⟩], [],
      (pipelineReading plainSql [orders]).fingerprint⟩ := by
  have hg : (pipelineReading plainSql [orders]).graph =
      .ok (AssetGraph.ofAssets (pipelineReading plainSql [orders]).assets) := rfl
  exact @RunPlan.BuiltFrom.build_eq _ _ _ _ _ [orders, report] [orders, report] _
    ⟨hg, rfl, rfl, rfl, rfl, List.mergeSort_nil.symm, rfl⟩

theorem build_not_reading : RunPlan.build (pipelineReading hiddenSql []) plainConfig none =
    .ok ⟨[⟨⟨report, .main⟩, []⟩, ⟨⟨orders, .main⟩, []⟩], [],
      (pipelineReading hiddenSql []).fingerprint⟩ := by
  have hg : (pipelineReading hiddenSql []).graph =
      .ok (AssetGraph.ofAssets (pipelineReading hiddenSql []).assets) := rfl
  exact @RunPlan.BuiltFrom.build_eq _ _ _ _ _ [report, orders] [orders, report] _
    ⟨hg, rfl, rfl, rfl, rfl, List.mergeSort_nil.symm, rfl⟩

theorem refersTo_orders {sql sql' : String}
    (htables : Sql.referencedTables .duckDb sql' = .ok ["orders"]) :
    (pipelineReading sql []).RefersTo { name := report, type := "duckdb.sql", sql } sql' orders :=
  ⟨show orders ≠ report by decide, .duckDb, ["orders"], rfl, htables, "orders",
    List.mem_singleton_self _, rfl⟩

/-- An asset whose SQL reads another one without further ado waits for it. -/
theorem report_waits_for_orders : ∃ plan inRun t,
    RunPlan.build (pipelineReading plainSql []).inferUpstreams.1 plainConfig none =
      .ok plan ∧
    inRun ∈ (pipelineReading plainSql []).inferUpstreams.1.assets ∧
    inRun.name = report ∧ orders ∈ inRun.upstreams ∧
    plan.tasks[1]? = some t ∧ t.id = ⟨report, .main⟩ ∧ 0 ∈ t.waitsFor := by
  have hread : ({ name := report, type := "duckdb.sql", sql := plainSql } :
      Asset).readAssets Sql.referencedTables [orders, report] = [orders] := by
    have hdialect : Sql.Dialect.ofAssetType? "duckdb.sql" = some .duckDb := rfl
    simp only [Asset.readAssets, hdialect, tables_report]
    rfl
  have hplan := build_reading
  rw [← inferUpstreams_pipelineReading hread (.inr rfl)] at hplan
  have hplain : Template.Plain plainSql := Template.plain_of_not_mem (by decide)
  obtain ⟨inRun, hrun, shown, -, hname, -, -, -, -, hwaits, hrender, hsame⟩ :=
    ordered_as_written hplan (List.mem_cons_of_mem _ (List.mem_cons_self ..))
  have hup := (hsame _ (hrender hplain) (.inl hplain)).1 orders (refersTo_orders tables_report)
  exact ⟨_, inRun, _, hplan, hrun, hname, hup, rfl, rfl, hwaits orders hup 1 0 _ _ rfl rfl rfl rfl⟩

/-! ### A run that does not wait for what it reads -/

theorem render_hiddenSql : plainConfig.renderSql hiddenSql = .ok plainSql :=
  eq_ok_of_toOption (by decide +kernel)

theorem tables_hiddenSql : (Sql.referencedTables .duckDb hiddenSql).toOption = none := by
  decide +kernel

/-- **A run that does not wait for what it reads.** The second asset is sent as a query of the first
one, but the run does not know of it and produces it first. Its lineage has the first one among its
upstreams. -/
theorem report_ahead_of_orders : ∃ plan, ∃ a ∈ (pipelineReading hiddenSql []).assets,
    RunPlan.build (pipelineReading hiddenSql []).inferUpstreams.1 plainConfig none = .ok plan ∧
    a.name = report ∧
    (∃ text, plainConfig.renderSql a.sql = .ok text ∧
      (pipelineReading hiddenSql []).RefersTo a text orders) ∧
    (∀ b ∈ (pipelineReading hiddenSql []).inferUpstreams.1.assets, b.name = a.name →
      orders ∉ b.upstreams) ∧
    plan.tasks = [⟨⟨report, .main⟩, []⟩, ⟨⟨orders, .main⟩, []⟩] ∧
    ∃ b ∈ (renderAll plainConfig (pipelineReading hiddenSql [])).inferUpstreams.1.assets,
      b.name = a.name ∧ orders ∈ b.upstreams := by
  have hread : ({ name := report, type := "duckdb.sql", sql := hiddenSql } :
      Asset).readAssets Sql.referencedTables [orders, report] = [] := by
    have hdialect : Sql.Dialect.ofAssetType? "duckdb.sql" = some .duckDb := rfl
    obtain ⟨e, he⟩ := exists_error_of_toOption tables_hiddenSql
    simp only [Asset.readAssets, hdialect, he]
  have hinfer := inferUpstreams_pipelineReading hread (.inl rfl)
  have ha : { name := report, type := "duckdb.sql", sql := hiddenSql } ∈
      (pipelineReading hiddenSql []).assets := List.mem_cons_of_mem _ (List.mem_cons_self ..)
  have hrefers : (pipelineReading hiddenSql []).RefersTo
      { name := report, type := "duckdb.sql", sql := hiddenSql } plainSql orders :=
    refersTo_orders tables_report
  obtain ⟨b, hb, hname, hup⟩ := exists_shown plainConfig ha
  have hshown : plainConfig.shownSql { name := report, type := "duckdb.sql", sql := hiddenSql } =
      plainSql := by
    have hscript : ({ name := report, type := "duckdb.sql", sql := hiddenSql } : Asset).isScript =
        false := rfl
    rw [RunConfig.shownSql, hscript, render_hiddenSql]
    rfl
  refine ⟨_, _, ha, by rw [hinfer, build_not_reading], rfl, ⟨_, render_hiddenSql, hrefers⟩, ?_, rfl,
    b, hb, hname, (hup orders).mpr (.inr (hshown ▸ hrefers))⟩
  rw [hinfer]
  intro b hb hname hmem
  obtain rfl | rfl : b = { name := orders, type := "duckdb.sql", sql := "select 1 as id" } ∨
      b = { name := report, type := "duckdb.sql", sql := hiddenSql } := by
    simpa [pipelineReading] using hb
  · cases hmem
  · cases hmem

end CommandLine

end AssetFlow
