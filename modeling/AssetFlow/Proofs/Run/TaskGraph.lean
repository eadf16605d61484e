import AssetFlow.Proofs.Run.Selection

/-!
# The graph of tasks

A plan is a row of tasks in which every task waits for earlier ones. The assets that are left to be
run come one after another as the pipeline orders them, each with its stages; the data of an asset
waits for the data and the checks of all that it is read from, and the other stages of the asset
wait for its own data.

## Main statements

- `RunPlan.targets_of_build`: the targets of a plan name assets
- `RunPlan.taskIds_eq_flatMap`: the tasks are grouped by asset
- `RunPlan.task_graph_exact`: the tasks of a plan and what each of them waits for
-/

namespace AssetFlow.RunPlan

variable {p : Pipeline} {c : RunConfig} {previous : Option RunState} {plan : RunPlan}
  {g : AssetGraph}

/-! ### What a plan that is built says of its configuration -/

/-- What is selected is settled only if all targets name assets. -/
theorem targets_of_selected {chosen : List AssetName} (h : selected p g c = .ok chosen) :
    ∀ target ∈ c.targets, ∃ m ∈ p.names, m.text = target := by
  intro target ht
  obtain ⟨names, hnames, -⟩ := exists_of_bind_eq_ok h
  rw [targeted, if_neg fun hempty => List.ne_nil_of_mem ht (List.isEmpty_iff.mp hempty)] at hnames
  obtain ⟨groups, hgroups, -⟩ := exists_of_bind_eq_ok hnames
  obtain ⟨b, -, hb⟩ := (mem_of_mapM hgroups).1 target ht
  cases ha : p.asset? target with
  | none =>
    rw [ha] at hb
    cases hb
  | some a =>
    obtain ⟨hmem, htext⟩ := Pipeline.asset?_eq_some ha
    exact ⟨a.name, List.mem_map_of_mem hmem, htext⟩

/-- The targets of a plan name assets. -/
theorem targets_of_build (h : build p c previous = .ok plan) :
    ∀ target ∈ c.targets, ∃ m ∈ p.names, m.text = target := by
  obtain ⟨g, order, chosen, toRun, hb⟩ := build_ok h
  exact targets_of_selected hb.selected_eq

/-- A plan is built from states of the very pipeline only. -/
theorem fingerprint_of_build (h : build p c previous = .ok plan) :
    ∀ s, previous = some s → s.fingerprint = p.fingerprint := by
  rintro s rfl
  obtain ⟨g, order, chosen, toRun, hb⟩ := build_ok h
  exact beq_iff_eq.mp (rerun_some_eq_ok hb.rerun_eq).1

/-- What a plan is made of, in terms of the assets that are left to be run. -/
theorem exists_builtFrom_of_build (h : build p c previous = .ok plan) :
    ∃ g order chosen toRun, BuiltFrom p c previous plan g order chosen toRun ∧
      ∀ n, n ∈ toRun ↔ p.LeavesToRun c previous n := by
  obtain ⟨g, _, _, _, hb⟩ := build_ok h
  obtain ⟨plan', order, chosen, toRun, hb', -, htoRun⟩ :=
    exists_builtFrom hb.graph_eq (targets_of_build h) (fingerprint_of_build h)
  obtain rfl := Except.ok.inj (h.symm.trans hb'.build_eq)
  exact ⟨g, order, chosen, toRun, hb', htoRun⟩

/-! ### The groups of tasks -/

/-- The tasks of an asset in a plan. -/
def stages (p : Pipeline) (kinds : List TaskKind) (toRun : List AssetName) (n : AssetName) :
    List TaskId :=
  if toRun.contains n then ((p.asset? n.text).map (tasksOf kinds)).getD [] else []

/-- The tasks are grouped by asset. -/
theorem taskIds_eq_flatMap (kinds : List TaskKind) (order toRun : List AssetName) :
    taskIds p kinds order toRun = order.flatMap (stages p kinds toRun) := by
  induction order with
  | nil => rfl
  | cons n order ih =>
    rw [List.flatMap_cons, ← ih, taskIds, taskIds, List.filter_cons, stages]
    split
    · rw [List.filterMap_cons]
      cases p.asset? n.text <;> rfl
    · rfl

/-- The tasks of an asset are listed in the order of their kinds. -/
theorem tasksOf_sublist {kinds : List TaskKind} (hkinds : kinds.Sublist TaskKind.all) (a : Asset) :
    (tasksOf kinds a).Sublist (TaskKind.all.map (⟨a.name, ·⟩)) :=
  (List.filter_sublist.trans hkinds).map _

/-- The stages of an asset are in the order of all stages. -/
theorem stages_sublist (c : RunConfig) (toRun : List AssetName) (n : AssetName) :
    (stages p c.kinds toRun n).Sublist (TaskKind.all.map (⟨n, ·⟩)) := by
  rw [stages]
  split
  · cases ha : p.asset? n.text with
    | none => exact List.nil_sublist _
    | some a =>
      obtain rfl : a.name = n := AssetName.eq_of_text_eq (Pipeline.asset?_eq_some ha).2
      exact tasksOf_sublist c.kinds_sublist a
  · exact List.nil_sublist _

/-- The tasks of an asset that is to run are those of the kinds of the run that apply to it. -/
theorem mem_stages {kinds : List TaskKind} {toRun : List AssetName} {n : AssetName} {t : TaskId} :
    t ∈ stages p kinds toRun n ↔ t.asset = n ∧ n ∈ toRun ∧ t.kind ∈ kinds ∧
      ∃ a ∈ p.assets, a.name = n ∧ (t.kind = .checks → a.hasChecks) := by
  rw [stages]
  by_cases hrun : n ∈ toRun
  · rw [if_pos (List.contains_iff_mem.mpr hrun)]
    cases ha : p.asset? n.text with
    | none =>
      simp only [Option.map_none, Option.getD_none, List.not_mem_nil, false_iff]
      rintro ⟨-, -, -, a, hmem, rfl, -⟩
      cases ha.symm.trans (Pipeline.asset?_of_mem hmem)
    | some a =>
      obtain ⟨hmem, htext⟩ := Pipeline.asset?_eq_some ha
      obtain rfl := AssetName.eq_of_text_eq htext
      simp only [Option.map_some, Option.getD_some, mem_tasksOf]
      constructor
      · rintro ⟨hname, hkind, hchecks⟩
        exact ⟨hname, hrun, hkind, a, hmem, rfl, hchecks⟩
      · rintro ⟨hname, -, hkind, b, hb, heq, hchecks⟩
        obtain rfl := List.inj_on_of_nodup_map p.unique hb hmem heq
        exact ⟨hname, hkind, hchecks⟩
  · rw [if_neg fun hcontains => hrun (List.contains_iff_mem.mp hcontains)]
    simp [hrun]

/-! ### Waiting -/

/-- Places are listed in ascending order. -/
theorem pairwise_placesWhere (ids : List TaskId) (f : TaskId → Bool) :
    (placesWhere ids f).Pairwise (· < ·) := by
  have hplaces : (ids.zipIdx.map (·.2)).Pairwise (· < ·) := by
    rw [List.zipIdx_map_snd]
    exact List.pairwise_lt_range'
  exact hplaces.sublist (List.filter_sublist.map _)

/-- What a task waits for is listed in ascending order. -/
theorem pairwise_waitsFor (h : build p c previous = .ok plan) {i : Nat} {t : PlannedTask}
    (ht : plan.tasks[i]? = some t) : t.waitsFor.Pairwise (· < ·) := by
  obtain ⟨g, order, chosen, toRun, hb⟩ := build_ok h
  rw [((getElem?_tasks hb).mp ht).2]
  exact pairwise_placesWhere _ _

/-- The tasks that are no data wait for the data of their asset. -/
theorem mem_waitsFor_iff_of_ne_main (h : build p c previous = .ok plan) {i j : Nat} {t : PlannedTask}
    (ht : plan.tasks[i]? = some t) (hkind : t.id.kind ≠ .main) :
    j ∈ t.waitsFor ↔ ∃ u, plan.tasks[j]? = some u ∧ u.id = ⟨t.id.asset, .main⟩ := by
  rw [mem_waitsFor_iff h ht]
  refine exists_congr fun u => and_congr_right fun _ => ?_
  cases hk : t.id.kind with
  | main => exact absurd hk hkind
  | checks => simp only [TaskId.WaitsFor, hk]
  | pushMetadata => simp only [TaskId.WaitsFor, hk]

/-- A task that is not a main one waits for one task, the main one of its asset. -/
theorem waitsFor_eq_singleton (h : build p c previous = .ok plan) {i j : Nat} {t u : PlannedTask}
    (ht : plan.tasks[i]? = some t) (hkind : t.id.kind ≠ .main) (hu : plan.tasks[j]? = some u)
    (hid : u.id = ⟨t.id.asset, .main⟩) : t.waitsFor = [j] := by
  -- a task is planned at one place only
  have honly : ∀ k, k ∈ t.waitsFor ↔ k ∈ [j] := by
    intro k
    rw [mem_waitsFor_iff_of_ne_main h ht hkind, List.mem_singleton]
    constructor
    · rintro ⟨v, hv, hvid⟩
      have hsame : (plan.tasks.map (·.id))[k]? = (plan.tasks.map (·.id))[j]? := by
        rw [List.getElem?_map, List.getElem?_map, hv, hu, Option.map_some, Option.map_some, hvid, hid]
      obtain ⟨hlt, -⟩ := List.getElem?_eq_some_iff.mp hv
      exact (List.getElem?_inj (by rwa [List.length_map]) (nodup_ids h)).mp hsame
    · rintro rfl
      exact ⟨u, hu, hid⟩
  have hnodup := (waitsBack_of_build h i t ht).1
  exact List.perm_singleton.mp
    ((List.perm_ext_iff_of_nodup hnodup (List.nodup_singleton j)).mpr honly)

/-- **The graph of tasks is exact and points backwards.** No task of a plan is planned twice. The
tasks are grouped by asset as the pipeline orders them: an asset that is left to be run has one task
for each stage of the run, in the order of the stages, but for checks if there is nothing to check.
The places that a task waits for ascend and come before its own. The data of an asset waits for the
data and the checks of all that it is read from, at once or by way of assets with or without tasks;
every other task waits for the data of its asset alone, if that is planned. -/
theorem task_graph_exact (h : build p c previous = .ok plan) :
    (plan.tasks.map (·.id)).Nodup ∧
    (∃ g order stages, p.graph = .ok g ∧ g.order = .ok order ∧ p.ListsInOrder order ∧
      plan.tasks.map (·.id) = order.flatMap stages ∧
      ∀ n, (stages n).Sublist [⟨n, .main⟩, ⟨n, .checks⟩, ⟨n, .pushMetadata⟩] ∧
        ∀ t, t ∈ stages n ↔ t.asset = n ∧ p.LeavesToRun c previous n ∧ t.kind ∈ c.kinds ∧
          ∃ a ∈ p.assets, a.name = n ∧ (t.kind = .checks → a.hasChecks)) ∧
    ∀ (i : Nat) (t : PlannedTask), plan.tasks[i]? = some t →
      t.waitsFor.Pairwise (· < ·) ∧ (∀ j ∈ t.waitsFor, j < i) ∧
      (t.id.kind = .main → ∀ j, j ∈ t.waitsFor ↔ ∃ u, plan.tasks[j]? = some u ∧
        (u.id.kind = .main ∨ u.id.kind = .checks) ∧ p.Ancestor u.id.asset t.id.asset) ∧
      (t.id.kind ≠ .main →
        (∀ j u, plan.tasks[j]? = some u → u.id = ⟨t.id.asset, .main⟩ → t.waitsFor = [j]) ∧
        ((∀ u ∈ plan.tasks, u.id ≠ ⟨t.id.asset, .main⟩) → t.waitsFor = [])) := by
  obtain ⟨g, order, chosen, toRun, hb, htoRun⟩ := exists_builtFrom_of_build h
  refine ⟨nodup_ids h, ⟨g, order, stages p c.kinds toRun, hb.graph_eq, hb.order_eq,
    Pipeline.order_lists hb.graph_eq hb.order_eq, ?_, fun n => ⟨stages_sublist c toRun n, fun t => ?_⟩⟩,
    fun i t ht => ⟨pairwise_waitsFor h ht, (waitsBack_of_build h i t ht).2, fun hkind j => ?_,
      fun hkind => ⟨fun j u => waitsFor_eq_singleton h ht hkind, fun hnone => ?_⟩⟩⟩
  · rw [ids_tasks hb, taskIds_eq_flatMap]
  · rw [mem_stages, htoRun]
  · rw [mem_waitsFor_iff h ht]
    simp only [TaskId.WaitsFor, hkind]
  · refine List.eq_nil_iff_forall_not_mem.mpr fun j hj => ?_
    obtain ⟨u, hu, hid⟩ := (mem_waitsFor_iff_of_ne_main h ht hkind).mp hj
    exact hnone u (List.mem_of_getElem? hu) hid

/-- A row of three assets, the first of which has something to check. -/
def gappedPipeline : Pipeline where
  config := { name := "shop" }
  root := "."
  assets := [
    { name := report, type := "duckdb.sql", upstreams := [⟨"clean", by decide⟩] },
    { name := ⟨"clean", by decide⟩, type := "duckdb.sql", upstreams := [orders] },
    { name := orders, type := "duckdb.sql",
      customChecks := [{ name := "rows", query := "select 0" }] }]
  unique := by decide

/-- A run of the two ends of the row, with their descriptions. -/
def endsOnly : RunConfig :=
  { plainConfig with targets := ["report", "orders"], pushMetadata := true }

/-- The last asset waits for the first one although the one between them is left out. -/
theorem report_waits_across_gap : ∃ plan, build gappedPipeline endsOnly none = .ok plan ∧
    plan.tasks.map (·.id.text) = ["orders:main", "orders:checks", "orders:push-metadata",
      "report:main", "report:push-metadata"] ∧
    (plan.tasks.map (·.id)).Nodup ∧
    ∃ t u, plan.tasks[3]? = some t ∧ plan.tasks[4]? = some u ∧ t.waitsFor = [0, 1] ∧
      gappedPipeline.Ancestor orders report ∧ u.waitsFor = [3] := by
  refine ⟨⟨_, _, _⟩, rfl, rfl, ?_⟩
  obtain ⟨hnodup, -, hwaits⟩ := @task_graph_exact gappedPipeline endsOnly none _ rfl
  obtain ⟨-, -, hmain, -⟩ := hwaits 3 _ rfl
  obtain ⟨-, -, -, hother⟩ := hwaits 4 _ rfl
  obtain ⟨v, hv, -, hancestor⟩ := (hmain rfl 0).mp (by decide)
  obtain rfl := Option.some.inj hv
  exact ⟨hnodup, _, _, rfl, rfl, rfl, hancestor, (hother (by decide)).1 3 _ rfl rfl⟩

end AssetFlow.RunPlan
