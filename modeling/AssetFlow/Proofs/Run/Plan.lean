import AssetFlow.Proofs.Graph.Ancestry
import AssetFlow.Run.Plan
import Mathlib.Data.List.Forall2
import Mathlib.Data.List.Nodup

/-!
# What a plan holds

A plan that is built names the tasks of the assets that are to be run, and lets each of them wait
for the right ones. `TaskId.WaitsFor` says which ones these are in terms of the assets of the
pipeline; the order of the graph puts all of them before the task that waits.

## Main statements

- `RunPlan.build_ok`: what a plan that is built is made of
- `RunPlan.mem_waitsFor_iff`: the tasks that a task waits for
- `RunPlan.waitsBack_of_build`: a task waits for tasks before it only, for each of them once
-/

namespace AssetFlow

/-- A task must wait for another one of a pipeline: producing the data of an asset waits until all
that it is read from is produced and checked, the other stages until its own data is produced. -/
def TaskId.WaitsFor (p : Pipeline) (t other : TaskId) : Prop :=
  match t.kind with
  | .main => (other.kind = .main ∨ other.kind = .checks) ∧ p.Ancestor other.asset t.asset
  | .checks | .pushMetadata => other = ⟨t.asset, .main⟩

/-- A chain succeeds only if its first part does, and the rest on its result. -/
theorem exists_of_bind_eq_ok {ε α β : Type} {x : Except ε α} {f : α → Except ε β} {b : β}
    (h : x >>= f = .ok b) : ∃ a, x = .ok a ∧ f a = .ok b := by
  cases x with
  | error e => cases h
  | ok a => exact ⟨a, rfl, h⟩

theorem eq_ok_of_mapError_eq_ok {ε ε' α : Type} {f : ε → ε'} {x : Except ε α} {a : α}
    (h : x.mapError f = .ok a) : x = .ok a := by
  cases x with
  | error e => cases h
  | ok b => exact congrArg _ (Except.ok.inj h)

section MapM

variable {α β ε : Type} {f : α → Except ε β} {xs : List α} {ys : List β}

/-- A fallible map succeeds when it does so on every element, and lists the results in order. -/
theorem mapM_eq_ok_iff : xs.mapM f = .ok ys ↔ List.Forall₂ (fun x y => f x = .ok y) xs ys := by
  induction xs generalizing ys with
  | nil => cases ys <;> simp [pure, Except.pure]
  | cons x xs ih =>
    rw [List.mapM_cons]
    cases hx : f x with
    | error e => cases ys <;> simp [bind, Except.bind, hx]
    | ok y =>
      cases hxs : xs.mapM f with
      | error e => cases ys <;> simp [bind, Except.bind, ← ih, hx, hxs]
      | ok rest => cases ys <;> simp [bind, Except.bind, pure, Except.pure, ← ih, hx, hxs]

/-- Each piece of a row of work gives something, and all that is given comes from a piece. -/
theorem mem_of_mapM (h : xs.mapM f = .ok ys) :
    (∀ x ∈ xs, ∃ y ∈ ys, f x = .ok y) ∧ ∀ y ∈ ys, ∃ x ∈ xs, f x = .ok y := by
  have hpairs := mapM_eq_ok_iff.mp h
  clear h
  induction hpairs with
  | nil => exact ⟨List.forall_mem_nil _, List.forall_mem_nil _⟩
  | @cons x y xs ys hx _ ih =>
    constructor
    · refine List.forall_mem_cons.mpr ⟨⟨y, List.mem_cons_self .., hx⟩, fun z hz => ?_⟩
      obtain ⟨y', hmem, hy'⟩ := ih.1 z hz
      exact ⟨y', List.mem_cons_of_mem _ hmem, hy'⟩
    · refine List.forall_mem_cons.mpr ⟨⟨x, List.mem_cons_self .., hx⟩, fun z hz => ?_⟩
      obtain ⟨x', hmem, hx'⟩ := ih.2 z hz
      exact ⟨x', List.mem_cons_of_mem _ hmem, hx'⟩

end MapM

/-- The asset found under a name is one of the pipeline and has this name. -/
theorem Pipeline.asset?_eq_some {p : Pipeline} {name : String} {a : Asset}
    (h : p.asset? name = some a) : a ∈ p.assets ∧ a.name.text = name :=
  ⟨List.mem_of_find?_eq_some h, by simpa using List.find?_some h⟩

/-- Every name of the pipeline leads to an asset with this name. -/
theorem Pipeline.asset?_of_mem_names {p : Pipeline} {n : AssetName} (h : n ∈ p.names) :
    ∃ a, p.asset? n.text = some a ∧ a.name = n := by
  obtain ⟨b, hb, rfl⟩ := List.mem_map.mp h
  have hsome : (p.assets.find? fun a => a.name.text == b.name.text).isSome :=
    List.find?_isSome.mpr ⟨b, hb, by simp⟩
  obtain ⟨a, ha⟩ := Option.isSome_iff_exists.mp hsome
  exact ⟨a, ha, AssetName.eq_of_text_eq (Pipeline.asset?_eq_some ha).2⟩

/-- Names are unique, so that an asset is the one that is found under its name. -/
theorem Pipeline.asset?_of_mem {p : Pipeline} {a : Asset} (ha : a ∈ p.assets) :
    p.asset? a.name.text = some a := by
  obtain ⟨b, hb, hname⟩ := Pipeline.asset?_of_mem_names (List.mem_map_of_mem ha)
  obtain rfl : b = a := List.inj_on_of_nodup_map p.unique (Pipeline.asset?_eq_some hb).1 ha hname
  exact hb

/-! ### Stages -/

/-- The stages of a run are in the order of all stages, each once. -/
theorem RunConfig.kinds_sublist (c : RunConfig) : c.kinds.Sublist TaskKind.all := by
  simp only [RunConfig.kinds]
  split
  · exact List.filter_sublist
  · split <;> decide

namespace RunPlan

variable {p : Pipeline} {c : RunConfig} {previous : Option RunState} {plan : RunPlan}

/-- What a plan is made of: the graph of the pipeline, its assets in order, and the assets that were
chosen and are to be run. -/
structure BuiltFrom (p : Pipeline) (c : RunConfig) (previous : Option RunState) (plan : RunPlan)
    (g : AssetGraph) (order chosen toRun : List AssetName) : Prop where
  graph_eq : p.graph = .ok g
  order_eq : g.order = .ok order
  selected_eq : selected p g c = .ok chosen
  rerun_eq : rerun g p.fingerprint chosen previous = .ok toRun
  tasks_eq : plan.tasks = withWaits g (taskIds p c.kinds order toRun)
  skipped_eq : plan.skipped = leftOut order chosen toRun
  fingerprint_eq : plan.fingerprint = p.fingerprint

/-- A plan that is built comes from a graph, an order, a selection and what of it is to run. -/
theorem build_ok (h : build p c previous = .ok plan) :
    ∃ g order chosen toRun, BuiltFrom p c previous plan g order chosen toRun := by
  obtain ⟨g, hg, h⟩ := exists_of_bind_eq_ok h
  obtain ⟨order, ho, h⟩ := exists_of_bind_eq_ok h
  obtain ⟨chosen, hc, h⟩ := exists_of_bind_eq_ok h
  obtain ⟨toRun, hr, h⟩ := exists_of_bind_eq_ok h
  obtain rfl := Except.ok.inj h
  exact ⟨g, order, chosen, toRun, eq_ok_of_mapError_eq_ok hg, eq_ok_of_mapError_eq_ok ho, hc, hr,
    rfl, rfl, rfl⟩

/-- What a plan is, in terms of what it is built from. -/
theorem BuiltFrom.plan_eq {g : AssetGraph} {order chosen toRun : List AssetName}
    (hb : BuiltFrom p c previous plan g order chosen toRun) :
    plan = ⟨withWaits g (taskIds p c.kinds order toRun), leftOut order chosen toRun,
      p.fingerprint⟩ := by
  rw [← hb.tasks_eq, ← hb.skipped_eq, ← hb.fingerprint_eq]

/-- What a plan is made of says that it is built. -/
theorem BuiltFrom.build_eq {g : AssetGraph} {order chosen toRun : List AssetName}
    (hb : BuiltFrom p c previous plan g order chosen toRun) :
    build p c previous = .ok plan := by
  rw [hb.plan_eq, build, hb.graph_eq]
  simp only [Except.mapError, bind, Except.bind, hb.order_eq, hb.selected_eq, hb.rerun_eq]
  rfl

/-! ### Tasks -/

/-- An asset has a task of each kind that the run has, and checks only if it lists some. -/
theorem mem_tasksOf {kinds : List TaskKind} {a : Asset} {t : TaskId} :
    t ∈ tasksOf kinds a ↔ t.asset = a.name ∧ t.kind ∈ kinds ∧ (t.kind = .checks → a.hasChecks) := by
  simp only [tasksOf, List.mem_map, List.mem_filter, Bool.or_eq_true, bne_iff_ne]
  constructor
  · rintro ⟨k, ⟨hk, hchecks⟩, rfl⟩
    exact ⟨rfl, hk, fun he => hchecks.resolve_left (absurd he)⟩
  · rintro ⟨ha, hk, hchecks⟩
    refine ⟨t.kind, ⟨hk, ?_⟩, by rw [← ha]⟩
    by_cases he : t.kind = .checks
    · exact Or.inr (hchecks he)
    · exact Or.inl he

/-- The tasks of a plan are those of the assets that are to run. -/
theorem mem_taskIds {kinds : List TaskKind} {order toRun : List AssetName} {t : TaskId} :
    t ∈ taskIds p kinds order toRun ↔
      t.asset ∈ order ∧ t.asset ∈ toRun ∧ ∃ a, p.asset? t.asset.text = some a ∧
        t.kind ∈ kinds ∧ (t.kind = .checks → a.hasChecks) := by
  simp only [taskIds, List.mem_flatMap, List.mem_filterMap, List.mem_filter, mem_tasksOf,
    List.contains_iff_mem]
  constructor
  · rintro ⟨a, ⟨n, ⟨hord, hrun⟩, ha⟩, hname, hkind⟩
    have heq : t.asset = n := by
      rw [hname]
      exact AssetName.eq_of_text_eq (Pipeline.asset?_eq_some ha).2
    subst heq
    exact ⟨hord, hrun, a, ha, hkind⟩
  · rintro ⟨hord, hrun, a, ha, hkind⟩
    have heq := AssetName.eq_of_text_eq (Pipeline.asset?_eq_some ha).2
    exact ⟨a, ⟨t.asset, ⟨hord, hrun⟩, ha⟩, heq.symm, hkind⟩

/-- The places where a condition holds are those of the tasks that satisfy it. -/
theorem mem_placesWhere {ids : List TaskId} {f : TaskId → Bool} {j : Nat} :
    j ∈ placesWhere ids f ↔ ∃ t, ids[j]? = some t ∧ f t = true := by
  simp only [placesWhere, List.mem_map, List.mem_filter, Prod.exists, List.mem_zipIdx_iff_getElem?]
  constructor
  · rintro ⟨t, i, ⟨ht, hf⟩, rfl⟩
    exact ⟨t, ht, hf⟩
  · rintro ⟨t, ht, hf⟩
    exact ⟨t, j, ⟨ht, hf⟩, rfl⟩

theorem nodup_placesWhere (ids : List TaskId) (f : TaskId → Bool) : (placesWhere ids f).Nodup := by
  have hplaces : (ids.zipIdx.map (·.2)).Nodup := by
    rw [List.zipIdx_map_snd]
    exact List.nodup_range'
  exact hplaces.sublist (List.filter_sublist.map _)

/-- A task of the list waits for the places of the tasks that it must wait for. -/
theorem getElem?_withWaits {g : AssetGraph} {ids : List TaskId} {i : Nat} {t : PlannedTask} :
    (withWaits g ids)[i]? = some t ↔ ids[i]? = some t.id ∧ t.waitsFor = placesWhere ids
      (mustWait (if t.id.kind == .main then g.ancestors t.id.asset.text else []) t.id) := by
  simp only [withWaits, List.getElem?_map, Option.map_eq_some_iff]
  constructor
  · rintro ⟨id, hid, rfl⟩
    exact ⟨hid, rfl⟩
  · rintro ⟨hid, hwaits⟩
    refine ⟨t.id, hid, ?_⟩
    rw [← hwaits]

/-- Whom a task must wait for, said of the pipeline instead of the graph that is made of it. -/
theorem mustWait_iff {g : AssetGraph} (hg : p.graph = .ok g)
    {t other : TaskId} :
    mustWait (if t.kind == .main then g.ancestors t.asset.text else []) t other = true ↔
      t.WaitsFor p other := by
  cases hk : t.kind with
  | main =>
    simp [mustWait, TaskId.WaitsFor, hk, Pipeline.mem_ancestors_iff hg]
  | checks => simp [mustWait, TaskId.WaitsFor, hk]
  | pushMetadata => simp [mustWait, TaskId.WaitsFor, hk]

/-! ### Waiting -/

/-- The task at a place of a plan, and the places for which it waits. -/
theorem getElem?_tasks {g : AssetGraph} {order chosen toRun : List AssetName}
    (hb : BuiltFrom p c previous plan g order chosen toRun) {i : Nat} {t : PlannedTask} :
    plan.tasks[i]? = some t ↔ (taskIds p c.kinds order toRun)[i]? = some t.id ∧
      t.waitsFor = placesWhere (taskIds p c.kinds order toRun) (mustWait
        (if t.id.kind == .main then g.ancestors t.id.asset.text else []) t.id) := by
  rw [hb.tasks_eq, getElem?_withWaits]

/-- The tasks of a plan are the listed ones, in order. -/
theorem ids_tasks {g : AssetGraph} {order chosen toRun : List AssetName}
    (hb : BuiltFrom p c previous plan g order chosen toRun) :
    plan.tasks.map (·.id) = taskIds p c.kinds order toRun := by
  simp [hb.tasks_eq, withWaits, Function.comp_def]

/-- **The tasks that a task waits for** are the planned ones that it must wait for. -/
theorem mem_waitsFor_iff (h : build p c previous = .ok plan) {i j : Nat}
    {t : PlannedTask} (ht : plan.tasks[i]? = some t) :
    j ∈ t.waitsFor ↔ ∃ other, plan.tasks[j]? = some other ∧ t.id.WaitsFor p other.id := by
  obtain ⟨g, order, chosen, toRun, hb⟩ := build_ok h
  have hids : ∀ k : Nat, (taskIds p c.kinds order toRun)[k]? = (plan.tasks[k]?).map PlannedTask.id := by
    intro k
    rw [← ids_tasks hb, List.getElem?_map]
  rw [((getElem?_tasks hb).mp ht).2, mem_placesWhere]
  simp only [hids, Option.map_eq_some_iff, mustWait_iff hb.graph_eq]
  constructor
  · rintro ⟨_, ⟨other, hother, rfl⟩, hwait⟩
    exact ⟨other, hother, hwait⟩
  · rintro ⟨other, hother, hwait⟩
    exact ⟨other.id, ⟨other, hother, rfl⟩, hwait⟩

/-- An asset that comes later in the order is no ancestor of one that comes earlier. -/
theorem pairwise_not_ancestor {order : List AssetName} (h : p.ListsInOrder order) :
    order.Pairwise fun a b => a ≠ b ∧ ¬ p.Ancestor b a := by
  rw [List.pairwise_iff_getElem]
  intro i j hi hj hij
  refine ⟨fun heq => Nat.ne_of_lt hij ((List.Nodup.getElem_inj_iff h.nodup).mp heq), fun hanc => ?_⟩
  have hsplit : order = order.take i ++ order[i] :: order.drop (i + 1) := by
    rw [List.getElem_cons_drop, List.take_append_drop]
  obtain ⟨k, hk, heq⟩ := List.getElem_of_mem (h.before_of_ancestor hanc _ _ hsplit)
  rw [List.getElem_take] at heq
  have hkj := (List.Nodup.getElem_inj_iff h.nodup).mp heq
  rw [List.length_take] at hk
  omega

/-- A task does not wait for a task that comes later, nor are the two the same. -/
theorem pairwise_taskIds {g : AssetGraph} {order chosen toRun : List AssetName}
    (hb : BuiltFrom p c previous plan g order chosen toRun) :
    (taskIds p c.kinds order toRun).Pairwise fun t other => t ≠ other ∧ ¬ t.WaitsFor p other := by
  have hself := Pipeline.not_ancestor_self hb.graph_eq
  have hlists := Pipeline.order_lists hb.graph_eq hb.order_eq
  have hkinds : c.kinds.Pairwise fun k l => k ≠ l ∧ l ≠ .main :=
    List.Pairwise.sublist c.kinds_sublist (by decide)
  rw [taskIds, List.pairwise_flatMap]
  refine ⟨fun a _ => ?_, ?_⟩
  · -- the stages of one asset: no stage but the first is waited for
    rw [tasksOf, List.pairwise_map]
    refine (hkinds.filter _).imp ?_
    rintro k l ⟨hne, hl⟩
    refine ⟨fun heq => hne (TaskId.mk.inj heq).2, fun hwait => ?_⟩
    cases k with
    | main => exact hself a.name hwait.2
    | checks => exact hl (TaskId.mk.inj hwait).2
    | pushMetadata => exact hl (TaskId.mk.inj hwait).2
  · -- the stages of two assets, of which the second is not read by the first
    refine List.Pairwise.filterMap _ ?_ ((pairwise_not_ancestor hlists).filter _)
    rintro m n ⟨hne, hanc⟩ a ha b hb t ht other hother
    have hm := AssetName.eq_of_text_eq (Pipeline.asset?_eq_some ha).2
    have hn := AssetName.eq_of_text_eq (Pipeline.asset?_eq_some hb).2
    have ht := (mem_tasksOf.mp ht).1.trans hm
    have hother := (mem_tasksOf.mp hother).1.trans hn
    refine ⟨fun heq => hne (ht ▸ hother ▸ congrArg TaskId.asset heq), fun hwait => ?_⟩
    have hsame : ∀ {k}, other = ⟨t.asset, k⟩ → False := by
      intro k heq
      exact hne (ht.symm.trans ((congrArg TaskId.asset heq).symm.trans hother))
    cases hk : t.kind with
    | main =>
      simp only [TaskId.WaitsFor, hk] at hwait
      exact hanc (ht ▸ hother ▸ hwait.2)
    | checks =>
      simp only [TaskId.WaitsFor, hk] at hwait
      exact hsame hwait
    | pushMetadata =>
      simp only [TaskId.WaitsFor, hk] at hwait
      exact hsame hwait

/-- No task is planned twice. -/
theorem nodup_ids (h : build p c previous = .ok plan) :
    (plan.tasks.map (·.id)).Nodup := by
  obtain ⟨g, order, chosen, toRun, hb⟩ := build_ok h
  rw [ids_tasks hb]
  exact (pairwise_taskIds hb).imp And.left

/-- Every task of a row waits for tasks before it only, and for each of them once. -/
def WaitsBack (tasks : List PlannedTask) : Prop :=
  ∀ (i : Nat) (t : PlannedTask), tasks[i]? = some t → t.waitsFor.Nodup ∧ ∀ j ∈ t.waitsFor, j < i

/-- Every task of a plan waits for earlier tasks only. -/
theorem waitsBack_of_build (h : build p c previous = .ok plan) :
    WaitsBack plan.tasks := by
  intro i t ht
  obtain ⟨g, order, chosen, toRun, hb⟩ := build_ok h
  refine ⟨?_, fun j hj => ?_⟩
  · rw [((getElem?_tasks hb).mp ht).2]
    exact nodup_placesWhere _ _
  · obtain ⟨other, hother, hwait⟩ := (mem_waitsFor_iff h ht).mp hj
    by_contra hnot
    have hpair := pairwise_taskIds hb
    rw [← ids_tasks hb, List.pairwise_map, List.pairwise_iff_getElem] at hpair
    obtain ⟨hi, hti⟩ := List.getElem?_eq_some_iff.mp ht
    obtain ⟨hlt, htj⟩ := List.getElem?_eq_some_iff.mp hother
    rcases Nat.lt_or_eq_of_le (Nat.le_of_not_lt hnot) with hij | rfl
    -- a task that comes later is not waited for, and no task waits for itself
    · exact (hpair i j hi hlt hij).2 (by rwa [hti, htj])
    · obtain rfl : t = other := hti.symm.trans htj
      cases hk : t.id.kind with
      | main =>
        simp only [TaskId.WaitsFor, hk] at hwait
        exact Pipeline.not_ancestor_self hb.graph_eq _ hwait.2
      | checks =>
        simp only [TaskId.WaitsFor, hk] at hwait
        simpa [hk] using congrArg TaskId.kind hwait
      | pushMetadata =>
        simp only [TaskId.WaitsFor, hk] at hwait
        simpa [hk] using congrArg TaskId.kind hwait

/-- The assets of the tasks are assets of the pipeline. -/
theorem asset_mem_names (h : build p c previous = .ok plan) {t : PlannedTask}
    (ht : t ∈ plan.tasks) : t.id.asset ∈ p.names := by
  obtain ⟨g, order, chosen, toRun, hb⟩ := build_ok h
  have hmem : t.id ∈ taskIds p c.kinds order toRun := by
    rw [← ids_tasks hb]
    exact List.mem_map_of_mem ht
  have hord := (mem_taskIds.mp hmem).1
  exact ((Pipeline.order_lists hb.graph_eq hb.order_eq).mem_iff _).mp hord

/-- The assets with tasks. -/
theorem mem_scheduled {a : AssetName} : a ∈ plan.scheduled ↔
    ∃ (i : Nat) (t : PlannedTask), plan.tasks[i]? = some t ∧ t.id.asset = a := by
  rw [scheduled, List.mem_eraseDups, List.mem_map]
  constructor
  · rintro ⟨t, ht, ha⟩
    obtain ⟨i, hi⟩ := List.mem_iff_getElem?.mp ht
    exact ⟨i, t, hi, ha⟩
  · rintro ⟨i, t, ht, ha⟩
    exact ⟨t, List.mem_of_getElem? ht, ha⟩

/-! ### A small pipeline -/

/-- The first asset of a small pipeline. -/
def orders : AssetName := ⟨"orders", by decide⟩

/-- The second asset of a small pipeline. -/
def report : AssetName := ⟨"report", by decide⟩

/-- A pipeline of two assets, of which the second one reads the first one. -/
def smallPipeline : Pipeline where
  config := { name := "shop" }
  root := "."
  assets := [{ name := orders, type := "duckdb.sql" },
    { name := report, type := "duckdb.sql", upstreams := [orders] }]
  unique := by decide

/-- A run of everything. -/
def plainConfig : RunConfig := { startDate := default, endDate := default }

/-- The plan of a run of the small pipeline. -/
def smallPlan : RunPlan where
  tasks := [⟨⟨orders, .main⟩, []⟩, ⟨⟨report, .main⟩, [0]⟩]
  skipped := []
  fingerprint := smallPipeline.fingerprint

theorem orders_ancestor_report : smallPipeline.Ancestor orders report :=
  .single ⟨List.mem_cons_self .., _, List.mem_cons_of_mem _ (List.mem_cons_self ..), rfl,
    List.mem_cons_self ..⟩

theorem build_smallPipeline : build smallPipeline plainConfig none = .ok smallPlan := by
  have hleft : leftOut [orders, report] [orders, report] [orders, report] = [] :=
    List.mergeSort_nil
  have hbuild : build smallPipeline plainConfig none =
      .ok ⟨smallPlan.tasks, leftOut [orders, report] [orders, report] [orders, report],
        smallPipeline.fingerprint⟩ := by rfl
  rw [hbuild, hleft]
  rfl

end RunPlan

end AssetFlow
