import AssetFlow.Proofs.Graph.Acyclic
import AssetFlow.Proofs.Run.Rerun

/-!
# What is planned

A configuration selects assets by name, by what they are read from and by their tags. A run does all
that is selected; a run that continues another one does what that one left of it: the assets that
are not complete, and those that are read from a selected asset that is not complete, also if the
way from one to the other goes through assets that are not selected. All other assets are left out,
each for one reason.

## Main definitions

- `Pipeline.Selects`: a configuration selects an asset
- `Pipeline.LeavesToRun`: an asset is left to be run

## Main statements

- `RunPlan.exists_selected`: what is selected if all targets name assets
- `RunPlan.BuiltFrom.plan_congr`: a plan is settled by which assets are selected and left to be run
- `RunPlan.plans_what_is_left`: what a plan is made for
-/

namespace AssetFlow

/-- The targets of a configuration mean an asset: there are none, one of them names it, or it is
read from one of them and the configuration asks for all that reads its targets. -/
def Pipeline.Targets (p : Pipeline) (c : RunConfig) (n : AssetName) : Prop :=
  c.targets = [] ∨ ∃ target ∈ c.targets, n.text = target ∨
    c.downstream = true ∧ ∃ u : AssetName, u.text = target ∧ p.Ancestor u n

/-- An asset has the tag that a configuration asks for, and not the one that it rules out. -/
def Asset.PassesTags (a : Asset) (c : RunConfig) : Prop :=
  (∀ t, c.tag = some t → t ∈ a.tags) ∧ ∀ t, c.excludeTag = some t → t ∉ a.tags

/-- A configuration selects an asset of a pipeline. -/
def Pipeline.Selects (p : Pipeline) (c : RunConfig) (n : AssetName) : Prop :=
  p.Targets c n ∧ ∃ a ∈ p.assets, a.name = n ∧ a.PassesTags c

/-- An asset is left to be run: it is selected and, if a run is continued, the asset or a selected
asset that it is read from is not complete in the state of that run. -/
def Pipeline.LeavesToRun (p : Pipeline) (c : RunConfig) (previous : Option RunState)
    (n : AssetName) : Prop :=
  p.Selects c n ∧ ∀ s, previous = some s →
    ∃ u, (u = n ∨ p.Ancestor u n) ∧ p.Selects c u ∧ s.isComplete u.text = false

/-- A fallible map that succeeds on every element is a plain map. -/
theorem mapM_eq_ok {ε α β : Type} {f : α → Except ε β} {h : α → β} {l : List α}
    (hf : ∀ a ∈ l, f a = .ok (h a)) : l.mapM f = .ok (l.map h) := by
  induction l with
  | nil => rfl
  | cons a l ih =>
    rw [List.mapM_cons, hf a (List.mem_cons_self ..), ih fun b hb => hf b (List.mem_cons_of_mem a hb)]
    rfl

/-- The kinds of tasks depend on which kinds are named, not on how they are listed. -/
theorem RunConfig.kinds_congr {c c' : RunConfig} (honly : ∀ k, k ∈ c'.only ↔ k ∈ c.only)
    (hpush : c'.pushMetadata = c.pushMetadata) : c'.kinds = c.kinds := by
  have hempty : c'.only.isEmpty = c.only.isEmpty := by
    rw [Bool.eq_iff_iff, List.isEmpty_iff, List.isEmpty_iff, List.eq_nil_iff_forall_not_mem,
      List.eq_nil_iff_forall_not_mem]
    simp only [honly]
  have hmem : c'.only.contains = c.only.contains := by
    funext k
    rw [Bool.eq_iff_iff, List.contains_iff_mem, List.contains_iff_mem, honly]
  simp only [RunConfig.kinds, hempty, hmem, hpush]

namespace RunPlan

variable {p : Pipeline} {c : RunConfig} {previous : Option RunState} {plan : RunPlan}
  {g : AssetGraph} {order chosen toRun : List AssetName} {n : AssetName}

/-! ### Selection -/

theorem admits_iff {a : Asset} : admits c a = true ↔ a.PassesTags c := by
  rw [admits, Bool.and_eq_true]
  refine and_congr ?_ ?_
  · cases c.tag <;> simp [Asset.hasTag]
  · cases c.excludeTag <;> simp [Asset.hasTag]

/-- Targets that name assets of the pipeline lead to them. -/
theorem exists_asset_of_target (htargets : ∀ target ∈ c.targets, ∃ m ∈ p.names, m.text = target) :
    ∀ target ∈ c.targets, ∃ a, p.asset? target = some a ∧ a.name.text = target := by
  intro target ht
  obtain ⟨m, hm, rfl⟩ := htargets target ht
  obtain ⟨a, ha, rfl⟩ := Pipeline.asset?_of_mem_names hm
  exact ⟨a, ha, rfl⟩

/-- Which assets are targeted when every target names an asset. -/
theorem targeted_eq_ok (hne : c.targets ≠ [])
    (htargets : ∀ target ∈ c.targets, ∃ m ∈ p.names, m.text = target) :
    targeted p g c = .ok (c.targets.map fun target => ((p.asset? target).map Asset.name).toList ++
      if c.downstream then g.descendants target else []).flatten := by
  rw [targeted, if_neg (mt List.isEmpty_iff.mp hne), mapM_eq_ok (h := fun target =>
    ((p.asset? target).map Asset.name).toList ++
      if c.downstream then g.descendants target else [])]
  · rfl
  · intro target ht
    obtain ⟨a, ha, -⟩ := exists_asset_of_target htargets target ht
    simp [ha]

/-- What the targets mean if each of them names an asset. -/
theorem exists_targeted (hg : p.graph = .ok g)
    (htargets : ∀ target ∈ c.targets, ∃ m ∈ p.names, m.text = target) :
    ∃ names, targeted p g c = .ok names ∧ ∀ n, n ∈ names ↔ n ∈ p.names ∧ p.Targets c n := by
  by_cases hne : c.targets = []
  · refine ⟨p.names, ?_, fun n => by simp [Pipeline.Targets, hne]⟩
    rw [targeted, if_pos (List.isEmpty_iff.mpr hne)]
  · refine ⟨_, targeted_eq_ok hne htargets, fun n => ?_⟩
    simp only [List.mem_flatten, List.mem_map, exists_exists_and_eq_and, List.mem_append,
      Option.mem_toList, Option.map_eq_some_iff, Pipeline.Targets, hne, false_or]
    constructor
    · rintro ⟨target, ht, ⟨a, ha, rfl⟩ | hdown⟩
      · obtain ⟨hmem, htext⟩ := Pipeline.asset?_eq_some ha
        exact ⟨List.mem_map_of_mem hmem, target, ht, .inl htext⟩
      · obtain ⟨a, -, htext⟩ := exists_asset_of_target htargets target ht
        split at hdown
        · next hd =>
          rw [← htext, Pipeline.mem_descendants_iff hg] at hdown
          exact ⟨hdown.consumer_mem, target, ht, .inr ⟨hd, a.name, htext, hdown⟩⟩
        · cases hdown
    · rintro ⟨-, target, ht, heq | ⟨hd, u, rfl, hanc⟩⟩
      · obtain ⟨a, ha, htext⟩ := exists_asset_of_target htargets target ht
        exact ⟨target, ht, .inl ⟨a, ha, AssetName.eq_of_text_eq (htext.trans heq.symm)⟩⟩
      · refine ⟨u.text, ht, .inr ?_⟩
        rw [if_pos hd]
        exact (Pipeline.mem_descendants_iff hg).mpr hanc

/-- **What is selected** if all targets name assets. -/
theorem exists_selected (hg : p.graph = .ok g)
    (htargets : ∀ target ∈ c.targets, ∃ m ∈ p.names, m.text = target) :
    ∃ chosen, selected p g c = .ok chosen ∧ ∀ n, n ∈ chosen ↔ p.Selects c n := by
  obtain ⟨names, hnames, hmem⟩ := exists_targeted hg htargets
  refine ⟨_, by rw [selected, hnames]; rfl, fun n => ?_⟩
  rw [List.mem_filter, hmem, Pipeline.Selects]
  constructor
  · rintro ⟨⟨hn, htarget⟩, hadmit⟩
    obtain ⟨a, ha, rfl⟩ := Pipeline.asset?_of_mem_names hn
    rw [ha] at hadmit
    exact ⟨htarget, a, (Pipeline.asset?_eq_some ha).1, rfl, admits_iff.mp hadmit⟩
  · rintro ⟨htarget, a, ha, rfl, hpasses⟩
    have hn : a.name ∈ p.names := List.mem_map_of_mem ha
    rw [Pipeline.asset?_of_mem ha]
    exact ⟨⟨hn, htarget⟩, admits_iff.mpr hpasses⟩

/-- What is left to be run of what is selected. -/
theorem exists_rerun (hg : p.graph = .ok g) (hchosen : ∀ n, n ∈ chosen ↔ p.Selects c n)
    (hprevious : ∀ s, previous = some s → s.fingerprint = p.fingerprint) :
    ∃ toRun, rerun g p.fingerprint chosen previous = .ok toRun ∧
      ∀ n, n ∈ toRun ↔ p.LeavesToRun c previous n := by
  cases previous with
  | none => exact ⟨chosen, rfl, fun n => by simp [hchosen, Pipeline.LeavesToRun]⟩
  | some s =>
    have hcompatible : s.isCompatible p.fingerprint = true := beq_iff_eq.mpr (hprevious s rfl)
    refine ⟨toRerun g chosen s, by rw [rerun, if_pos hcompatible], fun n => ?_⟩
    rw [mem_toRerun hg, hchosen, Pipeline.LeavesToRun]
    simp only [Option.some.injEq, forall_eq', hchosen]
    refine and_congr_right fun hn => ?_
    constructor
    · rintro (hopen | ⟨u, hu, hopen, hanc⟩)
      · exact ⟨n, .inl rfl, hn, hopen⟩
      · exact ⟨u, .inr hanc, hu, hopen⟩
    · rintro ⟨u, rfl | hanc, hu, hopen⟩
      · exact .inl hopen
      · exact .inr ⟨u, hu, hopen, hanc⟩

/-- What a plan is made of if all targets name assets and the state fits the pipeline. -/
theorem exists_builtFrom (hg : p.graph = .ok g)
    (htargets : ∀ target ∈ c.targets, ∃ m ∈ p.names, m.text = target)
    (hprevious : ∀ s, previous = some s → s.fingerprint = p.fingerprint) :
    ∃ plan order chosen toRun, BuiltFrom p c previous plan g order chosen toRun ∧
      (∀ n, n ∈ chosen ↔ p.Selects c n) ∧ ∀ n, n ∈ toRun ↔ p.LeavesToRun c previous n := by
  obtain ⟨-, order, horder⟩ := Pipeline.graph_eq hg
  obtain ⟨chosen, hselected, hchosen⟩ := exists_selected hg htargets
  obtain ⟨toRun, hrerun, htoRun⟩ := exists_rerun hg hchosen hprevious
  exact ⟨⟨withWaits g (taskIds p c.kinds order toRun), leftOut order chosen toRun, p.fingerprint⟩,
    order, chosen, toRun, ⟨hg, horder, hselected, hrerun, rfl, rfl, rfl⟩, hchosen, htoRun⟩

/-- No plan is built from a state of another pipeline. -/
theorem build_of_incompatible {s : RunState} (hg : p.graph = .ok g)
    (htargets : ∀ target ∈ c.targets, ∃ m ∈ p.names, m.text = target)
    (hother : s.fingerprint ≠ p.fingerprint) :
    build p c (some s) = .error (.incompatibleState p.fingerprint s.fingerprint) := by
  obtain ⟨-, order, horder⟩ := Pipeline.graph_eq hg
  obtain ⟨chosen, hselected, -⟩ := exists_selected hg htargets
  have hcompatible : s.isCompatible p.fingerprint = false := beq_eq_false_iff_ne.mpr hother
  rw [build, hg]
  simp only [Except.mapError, bind, Except.bind, horder, hselected, rerun, hcompatible,
    Bool.false_eq_true, if_false]

/-! ### What a plan holds -/

/-- The order of a plan holds the assets of the pipeline. -/
theorem BuiltFrom.mem_order_iff (hb : BuiltFrom p c previous plan g order chosen toRun) :
    n ∈ order ↔ n ∈ p.names :=
  (Pipeline.order_lists hb.graph_eq hb.order_eq).mem_iff n

/-- The assets that a plan leaves out are those that are not to be run. -/
theorem BuiltFrom.mem_skipped_iff (hb : BuiltFrom p c previous plan g order chosen toRun)
    {reason : SkipReason} : (n, reason) ∈ plan.skipped ↔ n ∈ p.names ∧
      (reason = .filtered ∧ n ∉ chosen ∨ reason = .previouslySucceeded ∧ n ∈ chosen ∧ n ∉ toRun) := by
  rw [hb.skipped_eq, mem_leftOut, hb.mem_order_iff]
  refine and_congr_right fun _ => ?_
  by_cases hchosen : n ∈ chosen <;> by_cases hrun : n ∈ toRun <;>
    simp [skipReason, hchosen, hrun, eq_comm]

/-- No asset is skipped twice. -/
theorem BuiltFrom.nodup_skipped (hb : BuiltFrom p c previous plan g order chosen toRun) :
    (plan.skipped.map Prod.fst).Nodup := by
  have hnodup := (Pipeline.order_lists hb.graph_eq hb.order_eq).nodup
  rw [hb.skipped_eq, leftOut, ((List.mergeSort_perm _ _).map Prod.fst).nodup_iff,
    List.map_filterMap]
  refine List.Nodup.filterMap (fun m m' b hm hm' => ?_) hnodup
  simp only [Option.map_map, Option.mem_def, Option.map_eq_some_iff, Function.comp_apply] at hm hm'
  obtain ⟨-, -, rfl⟩ := hm
  obtain ⟨-, -, rfl⟩ := hm'
  rfl

/-- The tasks of a plan are the stages of the assets that are to be run. -/
theorem BuiltFrom.mem_ids_iff (hb : BuiltFrom p c previous plan g order chosen toRun) {t : TaskId} :
    t ∈ plan.tasks.map (·.id) ↔ t.asset ∈ toRun ∧ t.kind ∈ c.kinds ∧
      ∃ a ∈ p.assets, a.name = t.asset ∧ (t.kind = .checks → a.hasChecks) := by
  rw [ids_tasks hb, mem_taskIds, hb.mem_order_iff]
  constructor
  · rintro ⟨-, hrun, a, ha, hkind, hchecks⟩
    obtain ⟨hmem, htext⟩ := Pipeline.asset?_eq_some ha
    exact ⟨hrun, hkind, a, hmem, AssetName.eq_of_text_eq htext, hchecks⟩
  · rintro ⟨hrun, hkind, a, ha, hname, hchecks⟩
    rw [← hname]
    exact ⟨List.mem_map_of_mem ha, hname ▸ hrun, a, Pipeline.asset?_of_mem ha, hkind, hchecks⟩

/-- A plan is settled by the stages and by which assets are selected and left to be run. -/
theorem BuiltFrom.plan_congr {c' : RunConfig} {plan' : RunPlan} {order' chosen' toRun' : List AssetName}
    (hb : BuiltFrom p c previous plan g order chosen toRun)
    (hb' : BuiltFrom p c' previous plan' g order' chosen' toRun') (hkinds : c'.kinds = c.kinds)
    (hchosen : ∀ n, n ∈ chosen' ↔ n ∈ chosen) (htoRun : ∀ n, n ∈ toRun' ↔ n ∈ toRun) :
    plan' = plan := by
  obtain rfl : order' = order := Except.ok.inj (hb'.order_eq.symm.trans hb.order_eq)
  have hruns : toRun'.contains = toRun.contains := by
    funext n
    rw [Bool.eq_iff_iff, List.contains_iff_mem, List.contains_iff_mem, htoRun]
  have hreason : skipReason chosen' toRun' = skipReason chosen toRun := by
    funext n
    have hsel : chosen'.contains n = chosen.contains n := by
      rw [Bool.eq_iff_iff, List.contains_iff_mem, List.contains_iff_mem, hchosen]
    simp only [skipReason, hsel, congrFun hruns n]
  rw [hb.plan_eq, hb'.plan_eq, taskIds, taskIds, hkinds, hruns, leftOut, leftOut, hreason]

/-- Which assets are selected depends on which targets are named, not on how they are listed. -/
theorem selects_congr {c' : RunConfig} (htargets : ∀ t, t ∈ c'.targets ↔ t ∈ c.targets)
    (hdown : c'.downstream = c.downstream) (htag : c'.tag = c.tag)
    (hexclude : c'.excludeTag = c.excludeTag) : p.Selects c' n ↔ p.Selects c n := by
  have hempty : c'.targets = [] ↔ c.targets = [] := by
    simp only [List.eq_nil_iff_forall_not_mem, htargets]
  simp only [Pipeline.Selects, Pipeline.Targets, Asset.PassesTags, hempty, htargets, hdown, htag,
    hexclude]

/-- **What a plan is made for.** Let no asset of a pipeline be read from itself, and let all targets
of a configuration name assets. A state of another pipeline cannot be continued. In all other cases
there is a plan. Its tasks are the stages of the assets that are left to be run; every other asset
is left out, once, because it is not selected or because it is complete and nothing selected that it
is read from is not. Neither the order of the targets and of the stages that are asked for nor their
repetition matters. -/
theorem plans_what_is_left (hacyclic : ∀ a, ¬ p.Ancestor a a)
    (htargets : ∀ target ∈ c.targets, ∃ m ∈ p.names, m.text = target) :
    (∀ s, previous = some s → s.fingerprint ≠ p.fingerprint →
      build p c previous = .error (.incompatibleState p.fingerprint s.fingerprint)) ∧
    ((∀ s, previous = some s → s.fingerprint = p.fingerprint) →
      ∃ plan, build p c previous = .ok plan ∧
        (∀ t, t ∈ plan.tasks.map (·.id) ↔ p.LeavesToRun c previous t.asset ∧ t.kind ∈ c.kinds ∧
          ∃ a ∈ p.assets, a.name = t.asset ∧ (t.kind = .checks → a.hasChecks)) ∧
        (plan.skipped.map Prod.fst).Nodup ∧
        ∀ n reason, (n, reason) ∈ plan.skipped ↔ n ∈ p.names ∧ ¬ p.LeavesToRun c previous n ∧
          (reason = .filtered ∧ ¬ p.Selects c n ∨ reason = .previouslySucceeded ∧ p.Selects c n)) ∧
    ∀ targets only, (∀ t, t ∈ targets ↔ t ∈ c.targets) → (∀ k, k ∈ only ↔ k ∈ c.only) →
      build p { c with targets, only } previous = build p c previous := by
  obtain ⟨g, hg⟩ := Pipeline.exists_graph hacyclic
  refine ⟨?_, fun hprevious => ?_, fun targets only hsame honly => ?_⟩
  · rintro s rfl hother
    exact build_of_incompatible hg htargets hother
  · obtain ⟨plan, order, chosen, toRun, hb, hchosen, htoRun⟩ :=
      exists_builtFrom hg htargets hprevious
    refine ⟨plan, hb.build_eq, fun t => ?_, hb.nodup_skipped, fun n reason => ?_⟩
    · rw [hb.mem_ids_iff, htoRun]
    · rw [hb.mem_skipped_iff, hchosen, htoRun]
      -- what is not selected is not left to be run either
      have hleft : p.LeavesToRun c previous n → p.Selects c n := And.left
      tauto
  · have htargets' : ∀ target ∈ { c with targets, only }.targets, ∃ m ∈ p.names, m.text = target :=
      fun target ht => htargets target ((hsame target).mp ht)
    by_cases hprevious : ∀ s, previous = some s → s.fingerprint = p.fingerprint
    · obtain ⟨plan, order, chosen, toRun, hb, hchosen, htoRun⟩ :=
        exists_builtFrom hg htargets hprevious
      obtain ⟨plan', order', chosen', toRun', hb', hchosen', htoRun'⟩ :=
        exists_builtFrom hg htargets' hprevious
      have hselects : ∀ n, p.Selects { c with targets, only } n ↔ p.Selects c n := fun n =>
        selects_congr hsame rfl rfl rfl
      rw [hb.build_eq, hb'.build_eq, hb.plan_congr hb' (RunConfig.kinds_congr honly rfl)]
      · simp only [hchosen, hchosen', hselects, implies_true]
      · simp only [htoRun, htoRun', Pipeline.LeavesToRun, hselects, implies_true]
    · push Not at hprevious
      obtain ⟨s, rfl, hother⟩ := hprevious
      rw [build_of_incompatible hg htargets hother, build_of_incompatible hg htargets' hother]

/-- A run that asks for the first asset of the small pipeline and for its readers. -/
def ordersAndReaders : RunConfig := { plainConfig with targets := ["orders"], downstream := true }

/-- The state that a run leaves in which the second asset failed. -/
def reportFailed : RunState where
  parameters := ordersAndReaders
  assets := [⟨"orders", .succeeded, none⟩, ⟨"report", .failed, none⟩]
  fingerprint := smallPipeline.fingerprint

theorem selects_ordersAndReaders : ∀ n ∈ smallPipeline.names,
    smallPipeline.Selects ordersAndReaders n := by
  have hpasses : ∀ a : Asset, a.PassesTags ordersAndReaders := fun a =>
    ⟨fun t ht => (nomatch ht), fun t ht => (nomatch ht)⟩
  intro n hn
  refine ⟨.inr ⟨"orders", List.mem_cons_self .., ?_⟩, ?_⟩
  · obtain rfl | rfl : n = orders ∨ n = report := by
      simpa [smallPipeline, Pipeline.names] using hn
    · exact .inl rfl
    · exact .inr ⟨rfl, orders, rfl, orders_ancestor_report⟩
  · obtain ⟨a, ha, rfl⟩ := List.mem_map.mp hn
    exact ⟨a, ha, rfl, hpasses a⟩

/-- The continued run does the second asset only, and the first one is spared. -/
theorem plans_report_after_orders :
    (∀ target ∈ ordersAndReaders.targets, ∃ m ∈ smallPipeline.names, m.text = target) ∧
    (∃ plan, build smallPipeline ordersAndReaders (some reportFailed) = .ok plan ∧
      (orders, .previouslySucceeded) ∈ plan.skipped ∧ ⟨report, .main⟩ ∈ plan.tasks.map (·.id)) ∧
    build smallPipeline { ordersAndReaders with targets := ["orders", "orders"], only := [] }
      (some reportFailed) = build smallPipeline ordersAndReaders (some reportFailed) := by
  have htargets : ∀ target ∈ ordersAndReaders.targets, ∃ m ∈ smallPipeline.names,
      m.text = target := by
    intro target ht
    obtain rfl : target = "orders" := List.mem_singleton.mp ht
    exact ⟨orders, List.mem_cons_self .., rfl⟩
  have hacyclic : ∀ a, ¬ smallPipeline.Ancestor a a := Pipeline.not_ancestor_self (g := _) rfl
  obtain ⟨-, hplan, hsame⟩ := @plans_what_is_left _ _ (some reportFailed) hacyclic htargets
  obtain ⟨plan, hbuild, htasks, -, hskipped⟩ := hplan (by rintro s ⟨⟩; rfl)
  have hreport : smallPipeline.LeavesToRun ordersAndReaders (some reportFailed) report := by
    refine ⟨selects_ordersAndReaders _ (by decide), ?_⟩
    rintro s ⟨⟩
    exact ⟨report, .inl rfl, selects_ordersAndReaders _ (by decide), rfl⟩
  have horders : ¬ smallPipeline.LeavesToRun ordersAndReaders (some reportFailed) orders := by
    rintro ⟨-, hopen⟩
    obtain ⟨u, rfl | hanc, -, hu⟩ := hopen _ rfl
    · cases hu
    -- the first asset is read from no other one
    · obtain ⟨m, -, a, ha, hname, hread⟩ : ∃ m, smallPipeline.Reads m orders := by
        cases hanc with
        | single h => exact ⟨_, h⟩
        | tail _ h => exact ⟨_, h⟩
      have hnone : ∀ a ∈ smallPipeline.assets, a.name = orders → a.upstreams = [] := by decide
      rw [hnone a ha hname] at hread
      cases hread
  refine ⟨htargets, ⟨plan, hbuild, ?_, ?_⟩, hsame _ _ (by simp [ordersAndReaders])
    (by simp [ordersAndReaders, plainConfig])⟩
  · exact (hskipped _ _).mpr ⟨by decide, horders, .inr ⟨rfl, selects_ordersAndReaders _ (by decide)⟩⟩
  · exact (htasks _).mpr ⟨hreport, by decide, _, List.mem_cons_of_mem _ (List.mem_cons_self ..), rfl,
      fun h => nomatch h⟩

end RunPlan

end AssetFlow
