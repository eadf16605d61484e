import AssetFlow.Proofs.Run.Plan
import AssetFlow.Proofs.Run.State
import AssetFlow.Run.Runner

/-!
# What a run that continues another one does again

A run that continues another one does again what is not complete, and all that is read from it, as
far as the configuration selects it. So what is not done again is complete, and nothing that it is
read from is done again either. The state that a run begins with says the same: an asset is complete
in it if and only if the run leaves it out for having succeeded before.

## Main statements

- `RunPlan.mem_toRerun`: the assets that are done again
- `RunPlan.reason?_eq_some_iff`: the assets that are left out, and why
- `RunPlan.BuiltFrom.isComplete_of_spared`: what is spared was complete, and is not read from what
  is done again
- `Run.isComplete_initialState`: the state that a run begins with
- `Run.prepare_ok`: what a run that is prepared begins with
-/

namespace AssetFlow

namespace RunPlan

variable {p : Pipeline} {c : RunConfig} {previous : Option RunState} {plan : RunPlan}
  {g : AssetGraph} {order chosen toRun : List AssetName} {s : RunState} {a u : AssetName}

/-- **The assets that are done again** are the selected ones that are not complete or are read from
a selected one that is not complete. -/
theorem mem_toRerun (hg : p.graph = .ok g) : a ∈ toRerun g chosen s ↔ a ∈ chosen ∧
    (s.isComplete a.text = false ∨
      ∃ u ∈ chosen, s.isComplete u.text = false ∧ p.Ancestor u a) := by
  simp only [toRerun, List.mem_append, List.mem_filter, List.mem_flatMap, Bool.not_eq_true',
    List.contains_iff_mem, Pipeline.mem_descendants_iff hg]
  constructor
  · rintro (⟨ha, hopen⟩ | ⟨⟨u, ⟨hu, hopen⟩, hanc⟩, ha⟩)
    · exact ⟨ha, .inl hopen⟩
    · exact ⟨ha, .inr ⟨u, hu, hopen, hanc⟩⟩
  · rintro ⟨ha, hopen | ⟨u, hu, hopen, hanc⟩⟩
    · exact .inl ⟨ha, hopen⟩
    · exact .inr ⟨⟨u, ⟨hu, hopen⟩, hanc⟩, ha⟩

/-- What is read from an asset that is done again is done again too, if it is selected. -/
theorem mem_toRerun_of_ancestor (hg : p.graph = .ok g) (hu : u ∈ toRerun g chosen s)
    (hanc : p.Ancestor u a) (ha : a ∈ chosen) : a ∈ toRerun g chosen s := by
  rw [mem_toRerun hg] at hu ⊢
  obtain ⟨hsel, hopen | ⟨v, hv, hopen, hanc'⟩⟩ := hu
  · exact ⟨ha, .inr ⟨u, hsel, hopen, hanc⟩⟩
  · exact ⟨ha, .inr ⟨v, hv, hopen, hanc'.trans hanc⟩⟩

/-- A state is continued only if it is compatible, and then the assets that are left run. -/
theorem rerun_some_eq_ok {fp : String} (h : rerun g fp chosen (some s) = .ok toRun) :
    s.isCompatible fp = true ∧ toRun = toRerun g chosen s := by
  simp only [rerun] at h
  split at h
  · next hc => exact ⟨hc, (Except.ok.inj h).symm⟩
  · cases h

/-- The assets to be run are among the selected ones. -/
theorem BuiltFrom.mem_chosen (hb : BuiltFrom p c previous plan g order chosen toRun)
    (ha : a ∈ toRun) : a ∈ chosen := by
  cases previous with
  | none => exact Except.ok.inj hb.rerun_eq ▸ ha
  | some s =>
    obtain ⟨-, rfl⟩ := rerun_some_eq_ok hb.rerun_eq
    exact ((mem_toRerun hb.graph_eq).mp ha).1

/-- Scheduled assets are to run and stand in the order. -/
theorem BuiltFrom.mem_of_scheduled (hb : BuiltFrom p c previous plan g order chosen toRun)
    (ha : a ∈ plan.scheduled) : a ∈ toRun ∧ a ∈ order := by
  obtain ⟨i, t, ht, rfl⟩ := mem_scheduled.mp ha
  have hmem : t.id ∈ taskIds p c.kinds order toRun := by
    rw [← ids_tasks hb]
    exact List.mem_map_of_mem (List.mem_of_getElem? ht)
  exact ⟨(mem_taskIds.mp hmem).2.1, (mem_taskIds.mp hmem).1⟩

/-- If any data is produced, then that of all assets to be run. -/
theorem BuiltFrom.exists_main (hb : BuiltFrom p c previous plan g order chosen toRun)
    (ha : a ∈ plan.scheduled) {j : Nat} {t : PlannedTask} (ht : plan.tasks[j]? = some t)
    (hkind : t.id.kind = .main) : ∃ (i : Nat) (t' : PlannedTask),
      plan.tasks[i]? = some t' ∧ t'.id = ⟨a, .main⟩ := by
  -- producing data is a stage of the run, and so it is a task of every asset of the run
  have hmain : TaskKind.main ∈ c.kinds := by
    have hmem : t.id ∈ taskIds p c.kinds order toRun := by
      rw [← ids_tasks hb]
      exact List.mem_map_of_mem (List.mem_of_getElem? ht)
    obtain ⟨-, -, b, -, hk, -⟩ := mem_taskIds.mp hmem
    exact hkind ▸ hk
  obtain ⟨hrun, hord⟩ := hb.mem_of_scheduled ha
  have hnames := ((Pipeline.order_lists hb.graph_eq hb.order_eq).mem_iff a).mp hord
  obtain ⟨b, hb', -⟩ := Pipeline.asset?_of_mem_names hnames
  have hmem : (⟨a, .main⟩ : TaskId) ∈ plan.tasks.map PlannedTask.id := by
    rw [ids_tasks hb, mem_taskIds]
    exact ⟨hord, hrun, b, hb', hmain, by simp⟩
  obtain ⟨t', ht', hid⟩ := List.mem_map.mp hmem
  obtain ⟨i, hi⟩ := List.mem_iff_getElem?.mp ht'
  exact ⟨i, t', hi, hid⟩

/-! ### Reasons -/

/-- An asset is left out for the reason that applies to it. -/
theorem mem_leftOut {reason : SkipReason} : (a, reason) ∈ leftOut order chosen toRun ↔
    a ∈ order ∧ skipReason chosen toRun a = some reason := by
  simp only [leftOut, List.mem_mergeSort, List.mem_filterMap, Option.map_eq_some_iff,
    Prod.mk.injEq]
  constructor
  · rintro ⟨n, hn, r, hr, rfl, rfl⟩
    exact ⟨hn, hr⟩
  · rintro ⟨ha, hr⟩
    exact ⟨a, ha, reason, hr, rfl, rfl⟩

/-- **Why an asset is left out.** -/
theorem reason?_eq_some_iff (hb : BuiltFrom p c previous plan g order chosen toRun)
    {reason : SkipReason} : plan.reason? a.text = some reason ↔
      a ∈ order ∧ skipReason chosen toRun a = some reason := by
  rw [reason?, Option.map_eq_some_iff, hb.skipped_eq]
  constructor
  · rintro ⟨⟨n, r⟩, hfind, rfl⟩
    have hname : n = a := AssetName.eq_of_text_eq (by simpa using List.find?_some hfind)
    exact mem_leftOut.mp (hname ▸ List.mem_of_find?_eq_some hfind)
  · intro h
    have hmem := mem_leftOut.mpr h
    have hsome : ((leftOut order chosen toRun).find? (·.1.text == a.text)).isSome :=
      List.find?_isSome.mpr ⟨_, hmem, by simp⟩
    obtain ⟨⟨n, r⟩, hfind⟩ := Option.isSome_iff_exists.mp hsome
    have hname : n = a := AssetName.eq_of_text_eq (by simpa using List.find?_some hfind)
    subst hname
    have hr := (mem_leftOut.mp (List.mem_of_find?_eq_some hfind)).2
    exact ⟨_, hfind, Option.some.inj (hr.symm.trans h.2)⟩

/-- An asset is left out for one reason only. -/
theorem BuiltFrom.mem_skipped_iff_reason? (hb : BuiltFrom p c previous plan g order chosen toRun)
    {reason : SkipReason} : (a, reason) ∈ plan.skipped ↔ plan.reason? a.text = some reason := by
  rw [hb.skipped_eq, mem_leftOut, reason?_eq_some_iff hb]

/-- Selected assets that are not to run again are skipped as succeeded before. -/
theorem skipReason_eq_previouslySucceeded_iff :
    skipReason chosen toRun a = some .previouslySucceeded ↔ a ∈ chosen ∧ a ∉ toRun := by
  simp only [skipReason]
  split <;> [skip; split] <;> simp_all

/-- An asset with tasks is not left out. -/
theorem BuiltFrom.reason?_eq_none (hb : BuiltFrom p c previous plan g order chosen toRun)
    (ha : a ∈ plan.scheduled) : plan.reason? a.text = none := by
  obtain ⟨hrun, -⟩ := hb.mem_of_scheduled ha
  rw [Option.eq_none_iff_forall_ne_some]
  intro reason hreason
  have hskip := ((reason?_eq_some_iff hb).mp hreason).2
  simp [skipReason, hb.mem_chosen hrun, hrun] at hskip

/-- An asset that is left out for having succeeded before is complete in the state that is
continued, and nothing that it is read from is run again. -/
theorem BuiltFrom.isComplete_of_spared (hb : BuiltFrom p c previous plan g order chosen toRun)
    (ha : plan.reason? a.text = some .previouslySucceeded) : ∃ s, previous = some s ∧
      s.isComplete a.text = true ∧ ∀ u, p.Ancestor u a → u ∉ plan.scheduled := by
  obtain ⟨hsel, hnot⟩ :=
    skipReason_eq_previouslySucceeded_iff.mp ((reason?_eq_some_iff hb).mp ha).2
  cases previous with
  | none => exact absurd (Except.ok.inj hb.rerun_eq ▸ hsel) hnot
  | some s =>
    obtain ⟨-, heq⟩ := rerun_some_eq_ok hb.rerun_eq
    refine ⟨s, rfl, ?_, fun u hanc hu => hnot ?_⟩
    · rw [← Bool.not_eq_false]
      exact fun hopen => hnot (heq ▸ (mem_toRerun hb.graph_eq).mpr ⟨hsel, .inl hopen⟩)
    · have hrun := (hb.mem_of_scheduled hu).1
      rw [heq] at hrun ⊢
      exact mem_toRerun_of_ancestor hb.graph_eq hrun hanc hsel

/-- A selected asset is spared if it is complete in the state that is continued, and so is all that
it is read from as far as it is selected. -/
theorem BuiltFrom.not_scheduled_of_isComplete
    (hb : BuiltFrom p c (some s) plan g order chosen toRun) (ha : s.isComplete a.text = true)
    (hup : ∀ u ∈ chosen, p.Ancestor u a → s.isComplete u.text = true) : a ∉ plan.scheduled := by
  intro hmem
  obtain ⟨-, heq⟩ := rerun_some_eq_ok hb.rerun_eq
  have hrun := (hb.mem_of_scheduled hmem).1
  rw [heq, mem_toRerun hb.graph_eq] at hrun
  rcases hrun.2 with hopen | ⟨u, hu, hopen, hanc⟩
  · rw [ha] at hopen
    cases hopen
  · rw [hup u hu hanc] at hopen
    cases hopen

/-! ### Continuing a run of the small pipeline -/

/-- What is left to do of the small pipeline once its first asset is done. -/
def restPlan : RunPlan where
  tasks := [⟨⟨report, .main⟩, []⟩]
  skipped := [(orders, .previouslySucceeded)]
  fingerprint := smallPipeline.fingerprint

/-- A run of everything that continues a run whose first asset is done. -/
theorem build_restPlan {F : RunState} (hfp : F.fingerprint = smallPipeline.fingerprint)
    (horders : F.isComplete orders.text = true) (hreport : F.isComplete report.text = false) :
    build smallPipeline plainConfig (some F) = .ok restPlan := by
  have hg : smallPipeline.graph = .ok (AssetGraph.ofAssets smallPipeline.assets) := rfl
  have hsel : selected smallPipeline (AssetGraph.ofAssets smallPipeline.assets) plainConfig =
      .ok [orders, report] := rfl
  have hnone : (AssetGraph.ofAssets smallPipeline.assets).descendants report.text = [] := rfl
  have hrerun : rerun (AssetGraph.ofAssets smallPipeline.assets) smallPipeline.fingerprint
      [orders, report] (some F) = .ok [report] := by
    simp [rerun, toRerun, RunState.isCompatible, hfp, horders, hreport, hnone]
  exact BuiltFrom.build_eq (g := AssetGraph.ofAssets smallPipeline.assets)
    ⟨hg, rfl, hsel, hrerun, rfl, (List.mergeSort_singleton _).symm, rfl⟩

end RunPlan

/-! ### The state that a run begins with -/

namespace RunState

/-- Every entry of a new state is pending. -/
theorem eq_pending_of_entryOf?_start {c : RunConfig} {fp : String} {names : List String}
    {name : String} {e : AssetState} (h : (start c fp names).entryOf? name = some e) :
    e.status = .pending := by
  obtain ⟨n, -, rfl⟩ := List.mem_map.mp (List.mem_of_find?_eq_some h)
  rfl

/-- An entry that comes of leaving assets out is either an old one or that of an asset left out. -/
theorem entryOf?_foldl_skip (skipped : List (AssetName × SkipReason)) (s : RunState)
    (name : String) :
    (skipped.foldl (fun s (n, reason) => s.skip n.text reason) s).entryOf? name =
      match skipped.reverse.find? (·.1.text == name) with
      | some (_, reason) => some ⟨name, .skipped, some reason⟩
      | none => s.entryOf? name := by
  induction skipped generalizing s with
  | nil => rfl
  | cons e skipped ih =>
    rw [List.foldl_cons, ih, List.reverse_cons, List.find?_append]
    cases skipped.reverse.find? (·.1.text == name) with
    | some e' => rfl
    | none =>
      rw [entryOf?_skip]
      by_cases heq : name = e.1.text
      · simp [heq]
      · simp [heq, Ne.symm heq]

/-- Skipping assets does not change the fingerprint of a state. -/
theorem fingerprint_foldl_skip (skipped : List (AssetName × SkipReason)) (s : RunState) :
    (skipped.foldl (fun s (n, reason) => s.skip n.text reason) s).fingerprint = s.fingerprint := by
  induction skipped generalizing s with
  | nil => rfl
  | cons e skipped ih => exact ih _

end RunState

namespace Run

variable {p : Pipeline} {c : RunConfig} {previous : Option RunState} {plan : RunPlan}
  {g : AssetGraph} {order chosen toRun : List AssetName} {a : AssetName}

/-- An asset that the plan skips is entered as skipped, with the reason. -/
theorem entryOf?_initialState_of_some
    (hb : RunPlan.BuiltFrom p c previous plan g order chosen toRun) {reason : SkipReason}
    (ha : plan.reason? a.text = some reason) :
    (initialState p c plan).entryOf? a.text = some ⟨a.text, .skipped, some reason⟩ := by
  have hmem := hb.mem_skipped_iff_reason?.mpr ha
  rw [initialState, RunState.entryOf?_foldl_skip]
  cases hfind : plan.skipped.reverse.find? (·.1.text == a.text) with
  | none =>
    have := List.find?_eq_none.mp hfind _ (List.mem_reverse.mpr hmem)
    simp at this
  | some e =>
    obtain ⟨n, reason'⟩ := e
    -- the last entry agrees with the first
    have hname : n = a := AssetName.eq_of_text_eq (by simpa using List.find?_some hfind)
    have hmem' := List.mem_reverse.mp (List.mem_of_find?_eq_some hfind)
    rw [hname, hb.mem_skipped_iff_reason?, ha] at hmem'
    rw [Option.some.inj hmem']

/-- An asset that the plan does not skip is entered as pending. -/
theorem status?_initialState_of_none {status : AssetStatus} (ha : plan.reason? a.text = none)
    (hstatus : (initialState p c plan).status? a.text = some status) : status = .pending := by
  have hnone : plan.skipped.reverse.find? (·.1.text == a.text) = none := by
    rw [RunPlan.reason?, Option.map_eq_none_iff, List.find?_eq_none] at ha
    rw [List.find?_eq_none]
    exact fun e he => ha e (List.mem_reverse.mp he)
  rw [RunState.status?, initialState, RunState.entryOf?_foldl_skip, hnone] at hstatus
  obtain ⟨e, he, rfl⟩ := Option.map_eq_some_iff.mp hstatus
  exact RunState.eq_pending_of_entryOf?_start he

/-- An asset that the plan does not skip is not settled before the run. -/
theorem not_settled_initialState (ha : plan.reason? a.text = none) :
    ¬ (initialState p c plan).Settled a.text := by
  rintro ⟨status, hstatus, hterm⟩
  obtain rfl := status?_initialState_of_none ha hstatus
  cases hterm

/-- **The state that a run begins with** has the assets as complete that are spared. -/
theorem isComplete_initialState
    (hb : RunPlan.BuiltFrom p c previous plan g order chosen toRun) :
    (initialState p c plan).isComplete a.text = true ↔
      plan.reason? a.text = some .previouslySucceeded := by
  cases ha : plan.reason? a.text with
  | none =>
    have hopen := mt RunState.settled_of_isComplete (not_settled_initialState (p := p) (c := c) ha)
    simp [hopen]
  | some reason =>
    rw [RunState.isComplete, entryOf?_initialState_of_some hb ha]
    simp [AssetState.isComplete]

/-- **What a run that is prepared begins with.** -/
theorem prepare_ok {store : Store} {t : Tree} {r : Recorder}
    (h : prepare p c store t = .ok (plan, r)) : ∃ previous, Run.previous store t c = .ok previous ∧
      RunPlan.build p c previous = .ok plan ∧ r = initialRecorder p c plan := by
  obtain ⟨_, -, h⟩ := exists_of_bind_eq_ok h
  obtain ⟨previous, hprevious, h⟩ := exists_of_bind_eq_ok h
  obtain ⟨plan', hplan, h⟩ := exists_of_bind_eq_ok h
  obtain ⟨rfl, rfl⟩ := Prod.mk.inj (Except.ok.inj h)
  exact ⟨previous, hprevious, hplan, rfl⟩

end Run

end AssetFlow
