import AssetFlow.Proofs.Run.LifeCycle
import AssetFlow.Proofs.Run.Selection

/-!
# What a run accounts for

A run that nobody cancels accounts for an asset if it leaves the asset succeeded, failed or skipped
and its summary says so. It accounts for the assets that it leaves out and for those that it has
tasks for, and if all of these succeed, then a run that continues it has nothing to do. An asset
that is to be run may have no tasks, though: this is so if nothing but checks is asked for and the
asset declares none. Such an asset is overlooked. It stays pending, no part of the summary mentions
it, and a run that continues this one does again whatever is read from it.

## Main definitions

- `RunSummary.AccountsFor`: a final status on record that the summary agrees with
- `RunPlan.Overlooks`: an asset is to be run but has no tasks

## Main statements

- `Execution.accounted_for`: what a run accounts for, and what is left to a run that continues it
- `Execution.raw_overlooked`: a run that does not account for an asset
-/

namespace AssetFlow

/-- A run accounts for the asset with a name: the status of the asset on record is final, and the
summary lists the asset under this status and under no other one. -/
def RunSummary.AccountsFor (s : RunSummary) (state : RunState) (name : String) : Prop :=
  ∃ status, state.status? name = some status ∧ status.isTerminal = true ∧
    (name ∈ s.succeeded ↔ status = .succeeded) ∧
    (name ∈ s.failed.map Prod.fst ↔ status = .failed) ∧
    (name ∈ s.skipped.map Prod.fst ↔ status = .skipped)

/-- There is a stage in every run. -/
theorem RunConfig.exists_kind (c : RunConfig) : ∃ k, k ∈ c.kinds := by
  simp only [kinds]
  split
  · next honly =>
    obtain ⟨k, hk⟩ := List.exists_mem_of_ne_nil c.only (by simpa using honly)
    exact ⟨k, List.mem_filter.mpr ⟨by cases k <;> decide, List.contains_iff_mem.mpr hk⟩⟩
  · exact ⟨.main, List.mem_cons_self ..⟩

namespace RunPlan

/-- A plan overlooks an asset: it does not leave the asset out, and it has no task for it. -/
def Overlooks (plan : RunPlan) (a : AssetName) : Prop :=
  plan.reason? a.text = none ∧ a ∉ plan.scheduled

variable {p : Pipeline} {c : RunConfig} {previous : Option RunState} {plan : RunPlan}
  {g : AssetGraph} {order chosen toRun : List AssetName} {a u : AssetName} {s : RunState}

theorem BuiltFrom.reason?_eq_none_iff (hb : BuiltFrom p c previous plan g order chosen toRun)
    (ha : a ∈ p.names) : plan.reason? a.text = none ↔ a ∈ toRun := by
  rw [Option.eq_none_iff_forall_ne_some]
  simp only [ne_eq, reason?_eq_some_iff hb, hb.mem_order_iff, ha, true_and]
  have hchosen : a ∈ toRun → a ∈ chosen := hb.mem_chosen
  by_cases hrun : a ∈ toRun
  · simp [skipReason, hrun, hchosen hrun]
  · by_cases hsel : a ∈ chosen <;> simp [skipReason, hrun, hsel]

theorem mem_scheduled_iff_ids : a ∈ plan.scheduled ↔ ∃ kind, ⟨a, kind⟩ ∈ plan.tasks.map (·.id) := by
  simp only [scheduled, List.mem_eraseDups, List.mem_map]
  constructor
  · rintro ⟨t, ht, rfl⟩
    exact ⟨t.id.kind, t, ht, rfl⟩
  · rintro ⟨kind, t, ht, hid⟩
    exact ⟨t, ht, by rw [hid]⟩

theorem BuiltFrom.not_overlooks (hb : BuiltFrom p c previous plan g order chosen toRun)
    {k : TaskKind} (hk : k ∈ c.kinds)
    (hstage : ∃ b ∈ p.assets, b.name = a ∧ (k = .checks → b.hasChecks = true)) :
    ¬ plan.Overlooks a := by
  rintro ⟨hreason, hnone⟩
  obtain ⟨b, hmem, rfl, hchecks⟩ := hstage
  have hrun := (hb.reason?_eq_none_iff (List.mem_map_of_mem hmem)).mp hreason
  exact hnone (mem_scheduled_iff_ids.mpr ⟨k, hb.mem_ids_iff.mpr ⟨hrun, hk, b, hmem, rfl, hchecks⟩⟩)

/-- An asset is overlooked only if nothing but checks is asked for and it declares none. -/
theorem Overlooks.only_checks (ha : plan.Overlooks a) (hplan : build p c previous = .ok plan)
    {b : Asset} (hb : b ∈ p.assets) (hname : b.name = a) :
    b.hasChecks = false ∧ ∀ k ∈ c.kinds, k = .checks := by
  obtain ⟨g, order, chosen, toRun, hbuilt⟩ := build_ok hplan
  have hnone : ∀ k ∈ c.kinds, k = .checks ∧ b.hasChecks = false := by
    intro k hk
    by_contra hstage
    -- the stage would be a task of the asset
    refine hbuilt.not_overlooks hk ⟨b, hb, hname, fun hchecks => ?_⟩ ha
    rw [← Bool.not_eq_false]
    exact fun hunchecked => hstage ⟨hchecks, hunchecked⟩
  obtain ⟨k, hk⟩ := c.exists_kind
  exact ⟨(hnone k hk).2, fun k hk => (hnone k hk).1⟩

/-- If the assets to be run that were not overlooked are complete, then a task is planned again only
for what is read from an asset that was overlooked. -/
theorem BuiltFrom.exists_continued (hb : BuiltFrom p c previous plan g order chosen toRun)
    (hfingerprint : s.fingerprint = p.fingerprint)
    (hcomplete : ∀ a ∈ chosen, ¬ plan.Overlooks a → s.isComplete a.text = true) :
    ∃ plan', build p c (some s) = .ok plan' ∧ ∀ t ∈ plan'.tasks,
      ∃ u ∈ p.names, p.Ancestor u t.id.asset ∧ plan.Overlooks u := by
  have hrerun : rerun g p.fingerprint chosen (some s) = .ok (toRerun g chosen s) := by
    rw [rerun, if_pos (show s.isCompatible p.fingerprint = true from beq_iff_eq.mpr hfingerprint)]
  have hb' : BuiltFrom p c (some s) ⟨withWaits g (taskIds p c.kinds order (toRerun g chosen s)),
      leftOut order chosen (toRerun g chosen s), p.fingerprint⟩ g order chosen (toRerun g chosen s) :=
    ⟨hb.graph_eq, hb.order_eq, hb.selected_eq, hrerun, rfl, rfl, rfl⟩
  refine ⟨_, hb'.build_eq, fun t ht => ?_⟩
  obtain ⟨hagain, hkind, hstage⟩ := hb'.mem_ids_iff.mp (List.mem_map_of_mem ht)
  obtain ⟨hsel, hopen | ⟨u, hu, hopen, hanc⟩⟩ := (mem_toRerun hb.graph_eq).mp hagain
  -- the asset of a task has a stage, so that it was not overlooked
  · rw [hcomplete _ hsel (hb.not_overlooks hkind hstage)] at hopen
    cases hopen
  · refine ⟨u, Pipeline.Ancestor.producer_mem hanc, hanc, ?_⟩
    by_contra hkept
    rw [hcomplete u hu hkept] at hopen
    cases hopen

/-- A selected asset is left out only for having succeeded before. -/
theorem BuiltFrom.eq_previouslySucceeded (hb : BuiltFrom p c previous plan g order chosen toRun)
    {reason : SkipReason} (ha : plan.reason? a.text = some reason) (hsel : a ∈ chosen) :
    reason = .previouslySucceeded := by
  rcases (hb.mem_skipped_iff.mp (hb.mem_skipped_iff_reason?.mpr ha)).2 with ⟨-, hnot⟩ | ⟨rfl, -⟩
  · exact absurd hsel hnot
  · rfl

end RunPlan

namespace Execution

variable {p : Pipeline} {c : RunConfig} {previous : Option RunState} {plan : RunPlan}
  {workers : Nat} {hs : List Happening} {x : Execution} {a : AssetName} {s : RunSummary}

section Over

variable (hplan : RunPlan.build p c previous = .ok plan)
  (hr : Run plan workers (begin p plan (Run.initialRecorder p c plan)) hs x)
  (hsum : x.summary = some s)

include hplan hr hsum

/-- A run that nobody cancels accounts for all assets but those that its plan overlooks. -/
theorem Run.accountsFor (hc : .cancelled ∉ hs) (ha : ¬ plan.Overlooks a) :
    s.AccountsFor x.recorder.state a.text := by
  obtain ⟨g, order, chosen, toRun, hb⟩ := RunPlan.build_ok hplan
  have ht := traced_of_run hplan hr
  obtain ⟨hsucceeded, hfailed, -, hskipped⟩ := hr.mem_summary_iff (a := a) hsum
  cases hreason : plan.reason? a.text with
  | some reason =>
    have hmem := hb.mem_skipped_iff_reason?.mpr hreason
    have hnone : a ∉ plan.scheduled := fun hsched => by
      rw [hb.reason?_eq_none hsched] at hreason
      cases hreason
    refine ⟨.skipped, ?_, rfl, ?_, ?_, ?_⟩
    · rw [RunState.status?, hr.entryOf?_of_skipped hplan hmem]
      rfl
    · simp [hsucceeded, hnone]
    · simp [hfailed, hnone]
    · exact iff_of_true (hskipped.mpr ⟨reason, hmem⟩) rfl
  | none =>
    have hsched : a ∈ plan.scheduled := by
      by_contra hnot
      exact ha ⟨hreason, hnot⟩
    -- all tasks are done with, so that the status is the one that their outcomes amount to
    have hdone := ht.valid.tallied.remainingOf_eq_zero
      (fun i hi => hr.isFinished hplan hc hsum i (ht.tasks_eq ▸ hi)) a
    have hend := Progress.endStatus_eq_finalStatus hdone
    have hne := x.schedule.progress.finalStatus_ne_skipped a
    refine ⟨_, hr.status?_of_concluded hplan hsum hsched, ?_, ?_, ?_, ?_⟩
    · rw [hend]
      exact x.schedule.progress.isTerminal_finalStatus a
    · rw [hsucceeded, and_iff_right hsched]
    · rw [hfailed, and_iff_right hsched]
    · rw [hskipped, hend]
      refine iff_of_false ?_ hne
      rintro ⟨reason, hmem⟩
      rw [hb.mem_skipped_iff_reason?, hreason] at hmem
      cases hmem

/-- An asset that is overlooked stays pending, and the summary does not mention it. -/
theorem Run.of_overlooks (hmem : a ∈ p.names) (ha : plan.Overlooks a) :
    x.recorder.state.status? a.text = some .pending ∧ a.text ∉ s.succeeded ∧
      a.text ∉ s.failed.map Prod.fst ∧ a.text ∉ s.skipped.map Prod.fst := by
  obtain ⟨g, order, chosen, toRun, hb⟩ := RunPlan.build_ok hplan
  obtain ⟨hreason, hnone⟩ := ha
  obtain ⟨hsucceeded, hfailed, -, hskipped⟩ := hr.mem_summary_iff (a := a) hsum
  refine ⟨?_, fun h => hnone (hsucceeded.mp h).1, fun h => hnone (hfailed.mp h).1, fun h => ?_⟩
  · have hplans : ¬ x.schedule.progress.Plans a.text := by
      rw [(traced_of_run hplan hr).plans_iff]
      rintro ⟨b, hsched, heq⟩
      exact hnone (AssetName.eq_of_text_eq heq ▸ hsched)
    rw [RunState.status?, recorder, (hr.noted hplan).elsewhere _ hplans]
    exact Run.status?_initialState_of_mem hmem hreason
  · obtain ⟨reason, hleft⟩ := hskipped.mp h
    rw [hb.mem_skipped_iff_reason?, hreason] at hleft
    cases hleft

/-- If no task ended badly in a run that nobody cancelled, then all tasks ended well. -/
theorem Run.doneWith_of_no_failure (hc : .cancelled ∉ hs)
    (hgood : ∀ i m, .ended i (.failed m) ∉ hs) : plan.DoneWith hs a := by
  have ht := traced_of_run hplan hr
  have hall : ∀ i < plan.tasks.length, x.schedule.progress.Succeeded i := by
    intro i hi
    induction i using Nat.strongRecOn with
    | ind i ih =>
      refine (Progress.isFinished_iff.mp (hr.isFinished hplan hc hsum i hi)).resolve_right ?_
      intro hfailed
      -- the cause of a failure is an earlier one, as no task failed by itself
      rcases ht.cause_of_failed i hfailed with ⟨m, hm⟩ | ⟨j, hj, hfailed⟩
      · exact hgood i m hm
      · have hlt := ht.valid.lt_of_mem_waitsOf hj
        exact hfailed.not_succeeded (ih j hlt (Nat.lt_trans hlt hi))
  intro i t htask _
  exact ht.ended_of_succeeded i (hall i (List.getElem?_eq_some_iff.mp htask).1)

/-- A run that nobody cancels and in which no task ends badly completes all that is selected but
what its plan overlooks. -/
theorem Run.isComplete_of_no_failure {g : AssetGraph} {order chosen toRun : List AssetName}
    (hb : RunPlan.BuiltFrom p c previous plan g order chosen toRun) (hc : .cancelled ∉ hs)
    (hgood : ∀ i m, .ended i (.failed m) ∉ hs) (hsel : a ∈ chosen) (ha : ¬ plan.Overlooks a) :
    x.recorder.state.isComplete a.text = true := by
  cases hreason : plan.reason? a.text with
  | some reason =>
    obtain rfl := hb.eq_previouslySucceeded hreason hsel
    rw [RunState.isComplete, hr.entryOf?_of_skipped hplan (hb.mem_skipped_iff_reason?.mpr hreason)]
    rfl
  | none =>
    have hsched : a ∈ plan.scheduled := by
      by_contra hnot
      exact ha ⟨hreason, hnot⟩
    exact (hr.isComplete_of_doneWith hplan hsched
      (hr.doneWith_of_no_failure hplan hsum hc hgood)).1

theorem Run.fingerprint_of_concluded : x.recorder.state.fingerprint = p.fingerprint := by
  have hsaved : x.recorder.state ∈ x.recorder.saved := by
    obtain ⟨before, y, -, -, -, -, -, rfl⟩ := hr.concluded hsum
    exact List.mem_cons_self ..
  exact (hr.saved_elsewhere hplan hsaved).1

end Over

/-- **What a run accounts for.** A run that nobody cancels leaves every asset succeeded, failed or
skipped, on record and in the summary alike, unless its plan overlooks the asset. An asset that is
overlooked stays pending and is not mentioned; that happens only if nothing but checks is asked for
and the asset declares none. If no task ended badly, then a run that continues this one in the same
way has tasks only for what is read from an asset that was overlooked, and none at all if there is
no such asset. -/
theorem accounted_for (hplan : RunPlan.build p c previous = .ok plan)
    (hr : Run plan workers (begin p plan (Run.initialRecorder p c plan)) hs x)
    (hc : .cancelled ∉ hs) (hsum : x.summary = some s) :
    (∀ a ∈ p.names, ¬ plan.Overlooks a → s.AccountsFor x.recorder.state a.text) ∧
    (∀ a ∈ p.names, plan.Overlooks a →
      (x.recorder.state.status? a.text = some .pending ∧ a.text ∉ s.succeeded ∧
        a.text ∉ s.failed.map Prod.fst ∧ a.text ∉ s.skipped.map Prod.fst) ∧
      ∀ b ∈ p.assets, b.name = a → b.hasChecks = false ∧ ∀ k ∈ c.kinds, k = .checks) ∧
    ((∀ i m, .ended i (.failed m) ∉ hs) →
      ∃ plan', RunPlan.build p c (some x.recorder.state) = .ok plan' ∧
        (∀ t ∈ plan'.tasks, ∃ u ∈ p.names, p.Ancestor u t.id.asset ∧ plan.Overlooks u) ∧
        ((∀ a ∈ p.names, ¬ plan.Overlooks a) → plan'.tasks = [])) := by
  refine ⟨fun a _ ha => hr.accountsFor hplan hsum hc ha, fun a hmem ha =>
    ⟨hr.of_overlooks hplan hsum hmem ha, fun b hb hname => ha.only_checks hplan hb hname⟩,
    fun hgood => ?_⟩
  obtain ⟨g, order, chosen, toRun, hb⟩ := RunPlan.build_ok hplan
  obtain ⟨plan', hplan', htasks⟩ := hb.exists_continued (hr.fingerprint_of_concluded hplan hsum)
    fun a hsel ha => hr.isComplete_of_no_failure hplan hsum hb hc hgood hsel ha
  refine ⟨plan', hplan', htasks, fun hnone => List.eq_nil_iff_forall_not_mem.mpr fun t ht => ?_⟩
  obtain ⟨u, hu, -, hover⟩ := htasks t ht
  exact hnone u hu hover

/-! ### A run that accounts for everything -/

open RunPlan (smallPipeline smallPlan plainConfig orders report)

theorem small_not_overlooks : ∀ a ∈ smallPipeline.names, ¬ smallPlan.Overlooks a := by
  rintro a ha ⟨-, hnone⟩
  obtain rfl | rfl : a = orders ∨ a = report := by
    simpa [smallPipeline, Pipeline.names] using ha
  · exact hnone (by decide)
  · exact hnone (by decide)

/-- The run of the small pipeline accounts for its first asset, and leaves nothing to do. -/
theorem small_run_accounted_for : ∃ x s, x.summary = some s ∧ .cancelled ∉ smallHistory ∧
    Run smallPlan 1 (begin smallPipeline smallPlan smallRecorder) smallHistory x ∧
    s.AccountsFor x.recorder.state orders.text ∧
    ∃ plan', RunPlan.build smallPipeline plainConfig (some x.recorder.state) = .ok plan' ∧
      plan'.tasks = [] := by
  have hone : 1 = 1 ∨ 1 = 3 := .inl rfl
  obtain ⟨x, s, hsum, hr, -⟩ := small_run_to_end hone
  have hc : .cancelled ∉ smallHistory := by decide
  obtain ⟨hkept, -, hagain⟩ := accounted_for RunPlan.build_smallPipeline hr hc hsum
  obtain ⟨plan', hplan', -, hnone⟩ := hagain (by simp [smallHistory])
  exact ⟨x, s, hsum, hc, hr, hkept orders (by decide) (small_not_overlooks orders (by decide)), plan',
    hplan', hnone small_not_overlooks⟩

/-! ### A run that overlooks an asset -/

def raw : AssetName := ⟨"raw", by decide⟩

/-- A pipeline of two assets, of which only the second one declares a check. -/
def checkedPipeline : Pipeline where
  config := { name := "p" }
  root := "."
  assets := [{ name := raw, type := "duckdb.sql" },
    { name := report, type := "duckdb.sql", upstreams := [raw],
      customChecks := [{ name := "rows", query := "select 0" }] }]
  unique := by decide

def onlyChecks : RunConfig := { plainConfig with only := [.checks] }

def checksPlan : RunPlan where
  tasks := [⟨⟨report, .checks⟩, []⟩]
  skipped := []
  fingerprint := checkedPipeline.fingerprint

theorem build_checkedPipeline {previous : Option RunState}
    (hrerun : RunPlan.rerun (AssetGraph.ofAssets checkedPipeline.assets) checkedPipeline.fingerprint
      [raw, report] previous = .ok [raw, report]) :
    RunPlan.build checkedPipeline onlyChecks previous = .ok checksPlan := by
  have hg : checkedPipeline.graph = .ok (AssetGraph.ofAssets checkedPipeline.assets) := rfl
  have hsel : RunPlan.selected checkedPipeline (AssetGraph.ofAssets checkedPipeline.assets)
      onlyChecks = .ok [raw, report] := rfl
  exact RunPlan.BuiltFrom.build_eq (g := AssetGraph.ofAssets checkedPipeline.assets)
    ⟨hg, rfl, hsel, hrerun, rfl, List.mergeSort_nil.symm, rfl⟩

/-- Both assets are to be run again if a run is continued that completed all but the first one. -/
theorem rerun_checkedPipeline {F : RunState} (hfp : F.fingerprint = checkedPipeline.fingerprint)
    (hraw : F.isComplete raw.text = false) (hreport : F.isComplete report.text = true) :
    RunPlan.rerun (AssetGraph.ofAssets checkedPipeline.assets) checkedPipeline.fingerprint
      [raw, report] (some F) = .ok [raw, report] := by
  have hreaders : (AssetGraph.ofAssets checkedPipeline.assets).descendants raw.text = [report] := rfl
  simp [RunPlan.rerun, RunPlan.toRerun, RunState.isCompatible, hfp, hraw, hreport, hreaders]

/-- The run of the checks succeeds. It does not account for the asset without checks, and a run that
continues it runs the checks again. -/
theorem raw_overlooked : ∃ x s plan',
    RunPlan.build checkedPipeline onlyChecks none = .ok checksPlan ∧
    Run checksPlan 1 (begin checkedPipeline checksPlan
        (Run.initialRecorder checkedPipeline onlyChecks checksPlan))
      [.concluded, .ended 0 .succeeded, .started 0] x ∧
    x.summary = some s ∧ raw ∈ checkedPipeline.names ∧
    ¬ s.AccountsFor x.recorder.state raw.text ∧
    RunPlan.build checkedPipeline onlyChecks (some x.recorder.state) = .ok plan' ∧
    plan'.tasks ≠ [] := by
  obtain ⟨x, s, hr, hsum, hfp, hraw, hreport⟩ : ∃ x s, Run checksPlan 1 (begin checkedPipeline
      checksPlan (Run.initialRecorder checkedPipeline onlyChecks checksPlan))
      [.concluded, .ended 0 .succeeded, .started 0] x ∧ x.summary = some s ∧
      x.recorder.state.fingerprint = checkedPipeline.fingerprint ∧
      x.recorder.state.status? raw.text = some .pending ∧
      x.recorder.state.status? report.text = some .succeeded :=
    ⟨_, _, .next (.next (.next .nil (.start rfl rfl rfl)) (.finish rfl rfl (List.mem_cons_self ..)))
      (.conclude rfl rfl rfl), rfl, rfl, rfl, rfl⟩
  have hopen : ¬ s.AccountsFor x.recorder.state raw.text := by
    rintro ⟨status, hstatus, hterm, -⟩
    obtain rfl := Option.some.inj (hraw.symm.trans hstatus)
    cases hterm
  have hagain := rerun_checkedPipeline hfp (RunState.isComplete_eq_of_status? hraw (by simp))
    (RunState.isComplete_eq_of_status? hreport (by simp))
  exact ⟨x, s, checksPlan, build_checkedPipeline rfl, hr, hsum, List.mem_cons_self .., hopen,
    build_checkedPipeline hagain, by simp [checksPlan]⟩

end Execution

end AssetFlow
