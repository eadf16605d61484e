import AssetFlow.Proofs.Run.Process

/-!
# Chains of runs

A run can be continued by another one, which can be continued in turn, each with a configuration of
its own. However many runs there are and however they go, an asset that is complete in the state
that they leave was done by one of them, and the data that it is read from has not been produced
anew since.

## Main definitions

- `Chain`: runs that continue one another, and the state that they leave
- `Chain.DoneLast`: an asset was done after all that it is read from

## Main statements

- `Chain.done_last_of_isComplete`: what is complete in the end was done last
- `Chain.process`: a run extends a chain however it goes
-/

namespace AssetFlow

/-- Two pipelines in which the same assets are read from the same ones. -/
def Pipeline.ReadsAs (q p : Pipeline) : Prop :=
  ∀ u a, q.Ancestor u a ↔ p.Ancestor u a

/-- A run that is over, in whichever way: its plan, and what happened, the latest first. -/
structure PastRun where
  plan : RunPlan
  happenings : List Happening

/-- The data of an asset was begun to be produced. -/
def RunPlan.Starts (plan : RunPlan) (hs : List Happening) (a : AssetName) : Prop :=
  ∃ (i : Nat) (t : PlannedTask), plan.tasks[i]? = some t ∧ t.id = ⟨a, .main⟩ ∧ .started i ∈ hs

/-- Runs that continue one another, the latest first, and the state that they leave. The first one
begins afresh, and each of the others continues the state that is left by those before. A run leaves
one of the states that it has saved; one in which nothing happens may also leave what was there. The
pipeline may be changed between two runs as long as the same assets are read from the same ones. -/
inductive Chain (p : Pipeline) : List PastRun → Option RunState → Prop
  | nil : Chain p [] none
  | idle {runs : List PastRun} {left : Option RunState} {plan : RunPlan} :
    Chain p runs left → Chain p (⟨plan, []⟩ :: runs) left
  | next {runs : List PastRun} {left : Option RunState} {q : Pipeline} {c : RunConfig}
      {plan : RunPlan} {hs : List Happening} {x : Execution} {F : RunState} :
    Chain p runs left → q.ReadsAs p → RunPlan.build q c left = .ok plan →
      Execution.Run plan c.workers (.begin q plan (Run.initialRecorder q c plan)) hs x →
      F ∈ x.recorder.saved → Chain p (⟨plan, hs⟩ :: runs) (some F)

namespace Execution

variable {p : Pipeline} {c : RunConfig} {previous : Option RunState} {plan : RunPlan}
  {workers : Nat} {r : Recorder} {x : Execution} {a u : AssetName}

/-- Once an asset is done, nothing that it is read from is begun in the same run. -/
theorem Run.not_starts_after_done {after before : List Happening}
    (hplan : RunPlan.build p c previous = .ok plan)
    (hr : Run plan workers (begin p plan r) (after ++ before) x) (ha : a ∈ plan.scheduled)
    (hdone : plan.DoneWith before a) (hanc : p.Ancestor u a) : ¬ plan.Starts after u := by
  rintro ⟨j, t, ht, hid, hj⟩
  obtain ⟨g, order, chosen, toRun, hb⟩ := RunPlan.build_ok hplan
  obtain ⟨i, t', ht', hid'⟩ := hb.exists_main ha ht (by rw [hid])
  have hwaits : j ∈ t'.waitsFor := by
    refine (RunPlan.mem_waitsFor_iff hplan ht').mpr ⟨t, ht, ?_⟩
    simp only [TaskId.WaitsFor, hid', hid, true_or, true_and]
    exact hanc
  -- producing `a` had begun by then, after `u` had ended
  obtain ⟨y, hy⟩ := hr.of_append
  have htraced := traced_of_run hplan hy
  have hended : .ended i .succeeded ∈ before := hdone i t' ht' (by rw [hid'])
  have hi : .started i ∈ before := (htraced.started_iff i).mpr (.inr ⟨_, hended⟩)
  have hj' : .started j ∈ before :=
    (htraced.started_iff j).mpr (.inr ⟨_, htraced.ended_of_started hi ht' j hwaits⟩)
  have hnodup := (traced_of_run hplan hr).nodup_handedOver
  rw [handedOver_append] at hnodup
  exact (List.disjoint_of_nodup_append hnodup) (mem_handedOver.mpr hj) (mem_handedOver.mpr hj')

/-- What a saved state says of an asset without tasks is what the run began with. -/
theorem Run.isComplete_of_saved {F : RunState} {hs : List Happening}
    (hplan : RunPlan.build p c previous = .ok plan)
    (hr : Run plan workers (begin p plan (Run.initialRecorder p c plan)) hs x)
    (hF : F ∈ x.recorder.saved) (ha : F.isComplete a.text = true) :
    (a ∈ plan.scheduled ∧ plan.DoneWith hs a) ∨
      ∃ s, previous = some s ∧ s.isComplete a.text = true ∧
        ∀ u, p.Ancestor u a → u ∉ plan.scheduled := by
  by_cases hmem : a ∈ plan.scheduled
  · exact .inl ⟨hmem,
      hr.doneWith_of_isComplete hplan (Run.freshFor_initialRecorder hplan) hF ha⟩
  · obtain ⟨g, order, chosen, toRun, hb⟩ := RunPlan.build_ok hplan
    have hentry := (hr.saved_elsewhere hplan hF).2 a hmem
    rw [RunState.isComplete_congr hentry, Run.isComplete_initialState hb] at ha
    exact .inr (hb.isComplete_of_spared ha)

end Execution

namespace Chain

variable {p q : Pipeline} {c : RunConfig} {store : Store} {startedAt : Moment} {t : Tree}
  {runs : List PastRun} {run : PastRun} {left : Option RunState} {hs : List Happening}
  {P : Process} {F : RunState} {a : AssetName}

/-- An asset was done by one of the runs, and since the last of its tasks ended no data that it is
read from has been begun to be produced, neither in this run nor in a later one. -/
def DoneLast (p : Pipeline) (runs : List PastRun) (a : AssetName) : Prop :=
  ∃ later run earlier, runs = later ++ run :: earlier ∧ a ∈ run.plan.scheduled ∧
    run.plan.DoneWith run.happenings a ∧ ∀ u, p.Ancestor u a →
      (∀ after before, run.happenings = after ++ before → run.plan.DoneWith before a →
        ¬ run.plan.Starts after u) ∧
      ∀ run' ∈ later, ¬ run'.plan.Starts run'.happenings u

/-- What was done last still is after a run that does not begin to produce what it is read from. -/
theorem DoneLast.cons (h : DoneLast p runs a)
    (hrun : ∀ u, p.Ancestor u a → ¬ run.plan.Starts run.happenings u) :
    DoneLast p (run :: runs) a := by
  obtain ⟨later, last, earlier, rfl, ha, hdone, hquiet⟩ := h
  refine ⟨run :: later, last, earlier, rfl, ha, hdone, fun u hanc =>
    ⟨(hquiet u hanc).1, fun run' hmem => ?_⟩⟩
  rcases List.mem_cons.mp hmem with rfl | hmem
  · exact hrun u hanc
  · exact (hquiet u hanc).2 run' hmem

/-- **What is complete in the end was done last.** -/
theorem done_last_of_isComplete (hc : Chain p runs (some F)) (ha : F.isComplete a.text = true) :
    DoneLast p runs a := by
  generalize hleft : some F = left at hc
  induction hc generalizing F with
  | nil => cases hleft
  | idle _ ih => exact (ih ha hleft).cons fun u _ ⟨i, t, _, _, hi⟩ => by cases hi
  | @next runs left q c plan hs x F' _ hreads hplan hr hF ih =>
    obtain rfl := Option.some.inj hleft
    rcases hr.isComplete_of_saved hplan hF ha with ⟨hmem, hdone⟩ | ⟨s, rfl, hs', hspared⟩
    -- done in this run, after all that it is read from
    · refine ⟨[], ⟨plan, hs⟩, runs, rfl, hmem, hdone, fun u hanc => ⟨?_, by simp⟩⟩
      rintro after before rfl hbefore
      exact hr.not_starts_after_done hplan hmem hbefore ((hreads u a).mpr hanc)
    · refine (ih hs' rfl).cons fun u hanc => ?_
      -- spared in this run, which then has no task of what it is read from
      rintro ⟨i, t, ht, hid, -⟩
      exact hspared u ((hreads u a).mpr hanc) (RunPlan.mem_scheduled.mpr ⟨i, t, ht, by rw [hid]⟩)

/-- **A run extends a chain however it goes**, whether it is refused, is killed at any moment, or
comes to its end: it leaves the state in its file, or else what was there. -/
theorem process (hc : Chain p runs left) (hreads : q.ReadsAs p)
    (hprevious : Run.previous store t c = .ok left)
    (hr : Process.Run q c store startedAt t hs P) :
    ∃ plan, Chain p (⟨plan, hs⟩ :: runs) (P.kept?.or left) := by
  rcases hr.carries with ⟨rfl, -, -, hidle⟩ | ⟨plan, x, hcarries⟩
  · have hkept : P.kept? = none := by
      rw [Process.kept?]
      split
      · next hstage => exact absurd hstage (hidle _ _)
      · rfl
    rw [hkept]
    exact ⟨⟨[], [], ""⟩, .idle hc⟩
  · cases hkept : P.kept? with
    | none =>
      have hnil : hs = [] := by
        by_contra hne
        obtain ⟨F, hF⟩ := hcarries.exists_kept hne
        rw [hkept] at hF
        cases hF
      rw [hnil]
      exact ⟨plan, .idle hc⟩
    | some F =>
      obtain ⟨left', hleft', hplan⟩ := hcarries.planned
      obtain rfl := Except.ok.inj (hprevious.symm.trans hleft')
      exact ⟨plan, .next hc hreads hplan hcarries.run (hcarries.mem_saved hkept)⟩

/-! ### A chain of runs of the small pipeline -/

open RunPlan

/-- The small pipeline is done in two runs, one asset in each. -/
theorem orders_done_last : ∃ runs F, Chain smallPipeline runs (some F) ∧
    F.isComplete orders.text = true ∧ runs.map PastRun.plan = [restPlan, smallPlan] ∧
    DoneLast smallPipeline runs orders := by
  have hfirst : ∃ F, Chain smallPipeline [⟨smallPlan, [.ended 0 .succeeded, .started 0]⟩] (some F) ∧
      F.fingerprint = smallPipeline.fingerprint ∧ F.isComplete orders.text = true ∧
      F.isComplete report.text = false :=
    ⟨_, .next .nil (fun _ _ => Iff.rfl) build_smallPipeline
      (.next (.next .nil (.start rfl rfl rfl)) (.finish rfl rfl (List.mem_cons_self ..)))
      (List.mem_cons_self ..), rfl, rfl, rfl⟩
  obtain ⟨F, hchain, hfp, horders, hreport⟩ := hfirst
  have hsecond : ∃ F' : RunState, Chain smallPipeline
      [⟨restPlan, [.ended 0 .succeeded, .started 0]⟩,
        ⟨smallPlan, [.ended 0 .succeeded, .started 0]⟩] (some F') ∧
      F'.isComplete orders.text = true :=
    ⟨_, .next hchain (fun _ _ => Iff.rfl) (build_restPlan hfp horders hreport)
      (.next (.next .nil (.start rfl rfl rfl)) (.finish rfl rfl (List.mem_cons_self ..)))
      (List.mem_cons_self ..), rfl⟩
  obtain ⟨F', hchain', horders'⟩ := hsecond
  exact ⟨_, F', hchain', horders', rfl, done_last_of_isComplete hchain' horders'⟩

end Chain

end AssetFlow
