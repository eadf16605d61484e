import AssetFlow.Proofs.Run.Saved

/-!
# What a run comes to if nobody cancels it

If nobody cancels a run, it ends, and all that it leaves behind is settled by how its tasks would
end, not by when they do. Something can always happen until the run is summed up, and every task is
started and ended at most once. In the end all tasks are done with, because the first one that is
not would have all that it waits for behind it; whether it was handed over is then settled by the
tasks before it.

## Main definitions

- `RunPlan.Needs`: a task waits for another one, at once or not
- `Execution.EndsAs`: every task ends as it is meant to

## Main statements

- `Execution.Run.exists_step`, `Execution.Run.length_eq`: a run goes on until it is over
- `Execution.uncancelled_run`: what a run comes to, and that it does not depend on the schedule
-/

namespace AssetFlow

/-- A task waits for another one, at once or by way of others. -/
def RunPlan.Needs (plan : RunPlan) : Nat → Nat → Prop :=
  Relation.TransGen fun i j => ∃ t, plan.tasks[i]? = some t ∧ j ∈ t.waitsFor

namespace Execution

variable {p : Pipeline} {c : RunConfig} {previous : Option RunState} {plan : RunPlan}
  {workers : Nat} {r : Recorder} {hs : List Happening} {x : Execution} {ok : TaskId → Bool}

/-- Every task that ends does so as it is meant to. -/
def EndsAs (plan : RunPlan) (ok : TaskId → Bool) (hs : List Happening) : Prop :=
  ∀ i o t, .ended i o ∈ hs → plan.tasks[i]? = some t → o.isSuccess = ok t.id

/-! ### A run goes on until it is over -/

/-- Until a run is over, something can happen in it other than that it is cancelled. -/
theorem Traced.exists_step (ht : x.Traced plan workers hs) (hnone : x.summary = none)
    (hok : EndsAs plan ok hs) : ∃ e y, Step plan workers x e y ∧ e ≠ .cancelled ∧
      EndsAs plan ok (e :: hs) := by
  have hother : ∀ e, (∀ i o, e ≠ .ended i o) → EndsAs plan ok (e :: hs) := by
    intro e he i o t hmem
    rcases List.mem_cons.mp hmem with heq | hmem
    · exact absurd heq.symm (he i o)
    · exact hok i o t hmem
  cases htakes : x.takesTask workers with
  | true =>
    obtain ⟨i, rest, hready⟩ := List.exists_cons_of_ne_nil (takesTask_iff.mp htakes).2.2
    -- a task that may start is handed over
    exact ⟨_, _, .start hnone htakes (ht.valid.start?_eq hready), by simp, hother _ (by simp)⟩
  | false =>
    cases hrunning : x.schedule.running with
    | nil => exact ⟨_, _, .conclude hnone htakes hrunning, by simp, hother _ (by simp)⟩
    | cons i rest =>
      have hi : i ∈ x.schedule.running := hrunning ▸ List.mem_cons_self ..
      have hlt := (ht.valid.of_mem_running hi).1
      rw [ht.tasks_eq] at hlt
      -- a running task ends in the way that it is meant to
      let o : Outcome := if ok plan.tasks[i].id then .succeeded else .failed ""
      refine ⟨.ended i o, _, .finish hnone htakes hi, by simp, fun j o' t hmem htask => ?_⟩
      rcases List.mem_cons.mp hmem with heq | hmem
      · obtain ⟨rfl, rfl⟩ := Happening.ended.inj heq
        obtain rfl := Option.some.inj ((List.getElem?_eq_getElem hlt).symm.trans htask)
        cases hk : ok plan.tasks[j].id <;> simp [o, hk, Outcome.isSuccess]
      · exact hok j o' t hmem htask

/-- Every task is started and ended at most once, and the run is summed up at most once. -/
theorem Run.length_eq (hplan : RunPlan.build p c previous = .ok plan)
    (hr : Run plan workers (begin p plan r) hs x) (hc : .cancelled ∉ hs) :
    hs.length + x.schedule.running.length =
      2 * (handedOver hs).length + if x.summary.isSome then 1 else 0 := by
  induction hr with
  | nil => rfl
  | @next hs x y e hr hstep ih =>
    have ht := traced_of_run hplan hr
    have ih := ih fun hmem => hc (List.mem_cons_of_mem _ hmem)
    rw [hstep.summary_none] at ih
    cases hstep with
    | cancel _ => exact absurd (List.mem_cons_self ..) hc
    | start hnone _ hstart =>
      obtain ⟨i, rest, -, heq, rfl⟩ := ht.valid.of_start?_eq hstart
      simp only [withSchedule, hnone, handedOver, List.length_cons, List.length_append,
        List.length_nil, Option.isSome_none] at ih ⊢
      omega
    | refuse _ _ hstart =>
      obtain ⟨i, rest, -, heq, -⟩ := ht.valid.of_start?_eq hstart
      cases heq
    | @finish i o hnone _ hi =>
      -- the task that ends is running, and it runs once
      have hnd := (List.nodup_append.mp ht.valid.nodup).2.1
      have hlen := List.length_erase_of_mem hi
      have hpos := List.length_pos_of_mem hi
      rw [List.Nodup.erase_eq_filter hnd] at hlen
      simp only [withSchedule, hnone, handedOver, List.length_cons, Option.isSome_none,
        (ht.valid.ends_finish hi o).running_eq] at ih ⊢
      omega
    | conclude _ _ hidle =>
      simp only [conclude, handedOver, List.length_cons, Option.isSome_none, Option.isSome_some,
        hidle, if_true, Bool.false_eq_true, if_false] at ih ⊢
      omega

theorem Traced.length_handedOver_le (ht : x.Traced plan workers hs) :
    (handedOver hs).length ≤ plan.tasks.length :=
  Graph.length_le_of_nodup_of_lt ht.nodup_handedOver fun _ hi =>
    ht.lt_of_started (mem_handedOver.mp hi)

/-! ### What the tasks come to -/

/-- When a run that nobody cancels is over, all tasks have an outcome. -/
theorem Run.isFinished {s : RunSummary} (hplan : RunPlan.build p c previous = .ok plan)
    (hr : Run plan workers (begin p plan r) hs x) (hc : .cancelled ∉ hs)
    (hsum : x.summary = some s) (i : Nat) (hi : i < plan.tasks.length) :
    x.schedule.progress.isFinished i = true := by
  obtain ⟨before, y, rfl, hy, -, htakes, hidle, rfl⟩ := hr.concluded hsum
  have ht := traced_of_run hplan hy
  have hcancelled : y.cancelled = false := by
    rw [← Bool.not_eq_true, hy.cancelled_iff]
    exact fun hmem => hc (List.mem_cons_of_mem _ hmem)
  have hready : y.schedule.ready = [] := by
    -- otherwise a task would be taken, as a worker is free
    by_contra hne
    have hfree : y.schedule.running.length < max workers 1 := by
      rw [hidle]
      exact Nat.lt_of_lt_of_le Nat.zero_lt_one (Nat.le_max_right _ _)
    rw [takesTask_iff.mpr ⟨hfree, hcancelled, hne⟩] at htakes
    cases htakes
  exact ht.valid.isFinished_of_idle hready hidle i (ht.tasks_eq ▸ hi)

section Finished

variable (ht : x.Traced plan workers hs)

include ht

/-- A task that ended well was handed over. -/
theorem Traced.started_of_succeeded {i : Nat} (hi : x.schedule.progress.Succeeded i) :
    .started i ∈ hs :=
  (ht.started_iff i).mpr (.inr ⟨_, ht.ended_of_succeeded i hi⟩)

/-- A task ended well if it was handed over and was meant to end well. -/
theorem Traced.succeeded_iff {i : Nat} {t : PlannedTask}
    (hfin : x.schedule.progress.isFinished i = true) (hok : EndsAs plan ok hs)
    (htask : plan.tasks[i]? = some t) :
    x.schedule.progress.Succeeded i ↔ .started i ∈ hs ∧ ok t.id = true := by
  constructor
  · intro hi
    exact ⟨ht.started_of_succeeded hi, (hok i _ t (ht.ended_of_succeeded i hi) htask).symm⟩
  · rintro ⟨hi, hgood⟩
    refine (Progress.isFinished_iff.mp hfin).resolve_right fun hfail => ?_
    -- a task that was handed over fails by itself only: those before it ended well
    rcases ht.cause_of_failed i hfail with ⟨m, hm⟩ | ⟨j, hj, hfail⟩
    · have hbad := hok i _ t hm htask
      rw [hgood] at hbad
      cases hbad
    · exact hfail.not_succeeded (ht.waits_of_started i hi j hj)

/-- A task was handed over if and only if all that it waits for ended well. -/
theorem Traced.started_iff_waits {i : Nat} (hfin : x.schedule.progress.isFinished i = true) :
    .started i ∈ hs ↔ ∀ j ∈ x.schedule.progress.waitsOf i, x.schedule.progress.Succeeded j := by
  refine ⟨fun hi => ht.waits_of_started i hi, fun hall => ?_⟩
  rcases Progress.isFinished_iff.mp hfin with hgood | hfail
  · exact ht.started_of_succeeded hgood
  · rcases ht.cause_of_failed i hfail with ⟨m, hm⟩ | ⟨j, hj, hfail⟩
    · exact (ht.started_iff i).mpr (.inr ⟨_, hm⟩)
    · exact absurd (hall j hj) hfail.not_succeeded

/-- A task was handed over if and only if all that it needs was handed over and ended well. -/
theorem Traced.started_iff_needs {i : Nat} (hi : i < plan.tasks.length)
    (hfin : x.schedule.progress.isFinished i = true) : .started i ∈ hs ↔
      ∀ j, plan.Needs i j → .started j ∈ hs ∧ .ended j .succeeded ∈ hs := by
  have hstep : ∀ {k j}, .started k ∈ hs → (∃ t, plan.tasks[k]? = some t ∧ j ∈ t.waitsFor) →
      .started j ∈ hs ∧ .ended j .succeeded ∈ hs := by
    rintro k j hk ⟨t, htask, hj⟩
    have hended := ht.ended_of_started hk htask j hj
    exact ⟨(ht.started_iff j).mpr (.inr ⟨_, hended⟩), hended⟩
  constructor
  · intro hstart j hneeds
    induction hneeds with
    | single hj => exact hstep hstart hj
    | tail _ hj ih => exact hstep ih.1 hj
  · intro hall
    -- what a task waits for at once is enough for it to be handed over
    rw [ht.started_iff_waits hfin]
    intro j hj
    rw [ht.waitsOf_eq (List.getElem?_eq_getElem hi)] at hj
    exact ht.outcome_of_ended j _ (hall j (.single ⟨_, List.getElem?_eq_getElem hi, hj⟩)).2

end Finished

/-! ### The schedule does not matter -/

section Same

variable {w₁ w₂ : Nat} {hs₁ hs₂ : List Happening} {x₁ x₂ : Execution}

/-- Two runs in which all tasks are done with and end as they are meant to have the same tasks end
well: whether a task does is settled by the tasks before it. -/
theorem Traced.succeeded_congr (ht₁ : x₁.Traced plan w₁ hs₁) (ht₂ : x₂.Traced plan w₂ hs₂)
    (hfin₁ : ∀ i < plan.tasks.length, x₁.schedule.progress.isFinished i = true)
    (hfin₂ : ∀ i < plan.tasks.length, x₂.schedule.progress.isFinished i = true)
    (hok₁ : EndsAs plan ok hs₁) (hok₂ : EndsAs plan ok hs₂) {i : Nat} (hi : i < plan.tasks.length) :
    x₁.schedule.progress.Succeeded i ↔ x₂.schedule.progress.Succeeded i := by
  induction i using Nat.strongRecOn with
  | ind i ih =>
    have htask := List.getElem?_eq_getElem hi
    rw [ht₁.succeeded_iff (hfin₁ i hi) hok₁ htask, ht₂.succeeded_iff (hfin₂ i hi) hok₂ htask,
      ht₁.started_iff_waits (hfin₁ i hi), ht₂.started_iff_waits (hfin₂ i hi),
      ht₁.waitsOf_eq htask, ht₂.waitsOf_eq htask]
    refine and_congr_left fun _ => forall₂_congr fun j hj => ?_
    -- a task waits for earlier ones only, so that the induction applies
    have hlt : j < i := ht₁.valid.lt_of_mem_waitsOf (by rwa [ht₁.waitsOf_eq htask])
    exact ih j hlt (Nat.lt_trans hlt hi)

/-- Two such runs hand over the same tasks. -/
theorem Traced.started_congr (ht₁ : x₁.Traced plan w₁ hs₁) (ht₂ : x₂.Traced plan w₂ hs₂)
    (hfin₁ : ∀ i < plan.tasks.length, x₁.schedule.progress.isFinished i = true)
    (hfin₂ : ∀ i < plan.tasks.length, x₂.schedule.progress.isFinished i = true)
    (hsame : ∀ i < plan.tasks.length,
      (x₁.schedule.progress.Succeeded i ↔ x₂.schedule.progress.Succeeded i)) (i : Nat) :
    .started i ∈ hs₁ ↔ .started i ∈ hs₂ := by
  by_cases hi : i < plan.tasks.length
  · have htask := List.getElem?_eq_getElem hi
    rw [ht₁.started_iff_waits (hfin₁ i hi), ht₂.started_iff_waits (hfin₂ i hi),
      ht₁.waitsOf_eq htask, ht₂.waitsOf_eq htask]
    refine forall₂_congr fun j hj => hsame j ?_
    have hlt : j < i := ht₁.valid.lt_of_mem_waitsOf (by rwa [ht₁.waitsOf_eq htask])
    exact Nat.lt_trans hlt hi
  · exact iff_of_false (fun h => hi (ht₁.lt_of_started h)) fun h => hi (ht₂.lt_of_started h)

/-- Two such runs leave the same statuses behind. -/
theorem status?_congr {s₁ s₂ : RunState} (ht₁ : x₁.Traced plan w₁ hs₁)
    (ht₂ : x₂.Traced plan w₂ hs₂)
    (hfin₁ : ∀ i < plan.tasks.length, x₁.schedule.progress.isFinished i = true)
    (hfin₂ : ∀ i < plan.tasks.length, x₂.schedule.progress.isFinished i = true)
    (herr : ∀ a, (x₁.schedule.progress.error? a).isSome = (x₂.schedule.progress.error? a).isSome)
    (hn₁ : x₁.schedule.progress.Noted s₁) (hn₂ : x₂.schedule.progress.Noted s₂)
    (hassets : s₁.assets = s₂.assets) (name : String) :
    x₁.recorder.state.status? name = x₂.recorder.state.status? name := by
  have htasks := ht₂.tasks_eq.trans ht₁.tasks_eq.symm
  by_cases hname : x₁.schedule.progress.Plans name
  · obtain ⟨i, a, ha, rfl⟩ := hname
    have ha₂ : x₂.schedule.progress.asset? i = some a := by rwa [Progress.asset?, htasks]
    have hdone₁ := ht₁.valid.tallied.remainingOf_eq_zero fun i hi => hfin₁ i (ht₁.tasks_eq ▸ hi)
    have hdone₂ := ht₂.valid.tallied.remainingOf_eq_zero fun i hi => hfin₂ i (ht₂.tasks_eq ▸ hi)
    rw [recorder, recorder, hn₁.status_eq i a ha (hdone₁ a), hn₂.status_eq i a ha₂ (hdone₂ a),
      Progress.finalStatus, Progress.finalStatus, herr]
  · have hname₂ := mt (Progress.Plans.congr htasks).mp hname
    rw [recorder, recorder, RunState.status?, RunState.status?, hn₁.elsewhere name hname,
      hn₂.elsewhere name hname₂, RunState.entryOf?, RunState.entryOf?, hassets]

/-- Two such runs agree on which assets have an error. -/
theorem Traced.error?_congr (ht₁ : x₁.Traced plan w₁ hs₁) (ht₂ : x₂.Traced plan w₂ hs₂)
    (hfin₁ : ∀ i < plan.tasks.length, x₁.schedule.progress.isFinished i = true)
    (hfin₂ : ∀ i < plan.tasks.length, x₂.schedule.progress.isFinished i = true)
    (hsame : ∀ i < plan.tasks.length,
      (x₁.schedule.progress.Succeeded i ↔ x₂.schedule.progress.Succeeded i)) (a : AssetName) :
    (x₁.schedule.progress.error? a).isSome = (x₂.schedule.progress.error? a).isSome := by
  have hfail : ∀ {w hs} {x : Execution}, x.Traced plan w hs →
      (∀ i < plan.tasks.length, x.schedule.progress.isFinished i = true) →
      ∀ {i}, i < plan.tasks.length →
        (x.schedule.progress.Failed i ↔ ¬ x.schedule.progress.Succeeded i) := by
    intro w hs x ht hfin i hi
    exact ⟨Progress.Failed.not_succeeded,
      (Progress.isFinished_iff.mp (hfin i hi)).resolve_left⟩
  rw [Bool.eq_iff_iff, ht₁.valid.tallied.error_iff, ht₂.valid.tallied.error_iff]
  simp only [Progress.asset?, ht₁.tasks_eq, ht₂.tasks_eq]
  refine exists_congr fun i => and_congr_right fun ha => ?_
  obtain ⟨t, ht, -⟩ := Option.map_eq_some_iff.mp ha
  have hi := (List.getElem?_eq_some_iff.mp ht).1
  rw [hfail ht₁ hfin₁ hi, hfail ht₂ hfin₂ hi, hsame i hi]

/-- What a run that nobody cancels leaves behind. -/
theorem Run.summary_eq {s : RunSummary} (hplan : RunPlan.build p c previous = .ok plan)
    (hr : Run plan workers (begin p plan r) hs x) (hc : .cancelled ∉ hs)
    (hsum : x.summary = some s) :
    s.pending = [] ∧
    s.succeeded = (plan.scheduled.filter fun a =>
      (x.schedule.progress.error? a).isNone).map AssetName.text ∧
    s.failed.map Prod.fst = (plan.scheduled.filter fun a =>
      (x.schedule.progress.error? a).isSome).map AssetName.text := by
  have hfin := hr.isFinished hplan hc hsum
  obtain ⟨before, y, rfl, hy, hnone, -, -, rfl⟩ := hr.concluded hsum
  have ht := traced_of_run hplan hy
  have hdone := ht.valid.tallied.remainingOf_eq_zero fun i hi => hfin i (ht.tasks_eq ▸ hi)
  have herr : ∀ a, (y.conclude plan).schedule.progress.error? a = y.schedule.progress.error? a :=
    fun _ => rfl
  obtain rfl : (y.schedule.progress.summary plan y.cancelled).1 = s := Option.some.inj hsum
  simp only [Progress.summary_eq, herr, hdone]
  refine ⟨by simp, by simp, ?_⟩
  rw [List.map_filterMap, ← List.filterMap_eq_filter, List.map_filterMap]
  refine List.filterMap_congr fun a _ => ?_
  cases he : y.schedule.progress.error? a <;> simp [Option.guard, he]

end Same

/-- **A run that nobody cancels comes to one end.** Let every task be meant to end well or badly.
A run that nobody cancels goes on until it is summed up, after at most two moves for each task. By
then every task is done with; a task was handed over if and only if all that it needs was handed
over and ended well, and one that was not handed over has failed. Two such runs hand over the same
tasks and leave the same assets succeeded, the same ones failed and the same statuses behind,
however many workers they have and in whatever order their tasks end. -/
theorem uncancelled_run (hplan : RunPlan.build p c previous = .ok plan) (ok : TaskId → Bool) :
    (∀ workers r hs x, Run plan workers (begin p plan r) hs x → .cancelled ∉ hs →
      EndsAs plan ok hs →
      hs.length ≤ 2 * plan.tasks.length + 1 ∧
      (x.summary = none → ∃ e y, Step plan workers x e y ∧ e ≠ .cancelled ∧
        EndsAs plan ok (e :: hs)) ∧
      ∀ s, x.summary = some s → s.pending = [] ∧ ∀ i < plan.tasks.length,
        x.schedule.progress.isFinished i = true ∧
        (.started i ∈ hs ↔ ∀ j, plan.Needs i j → .started j ∈ hs ∧ .ended j .succeeded ∈ hs) ∧
        (.started i ∉ hs → ∃ m, x.schedule.progress.outcome? i = some (.failed m))) ∧
    ∀ w₁ w₂ r₁ r₂ hs₁ hs₂ x₁ x₂ s₁ s₂, Run plan w₁ (begin p plan r₁) hs₁ x₁ →
      Run plan w₂ (begin p plan r₂) hs₂ x₂ → .cancelled ∉ hs₁ → .cancelled ∉ hs₂ →
      EndsAs plan ok hs₁ → EndsAs plan ok hs₂ → x₁.summary = some s₁ → x₂.summary = some s₂ →
      r₁.state.assets = r₂.state.assets →
      (∀ i, .started i ∈ hs₁ ↔ .started i ∈ hs₂) ∧ s₁.succeeded = s₂.succeeded ∧
      s₁.failed.map Prod.fst = s₂.failed.map Prod.fst ∧
      ∀ name, x₁.recorder.state.status? name = x₂.recorder.state.status? name := by
  constructor
  · intro workers r hs x hr hc hok
    have ht := traced_of_run hplan hr
    -- a run has at most so many steps, can go on until it is over, and is right when it is
    refine ⟨?_, fun hnone => ht.exists_step hnone hok, fun s hsum => ?_⟩
    · have hlen := hr.length_eq hplan hc
      have hle := ht.length_handedOver_le
      split at hlen <;> omega
    · refine ⟨(hr.summary_eq hplan hc hsum).1, fun i hi => ?_⟩
      have hfin := hr.isFinished hplan hc hsum i hi
      refine ⟨hfin, ht.started_iff_needs hi hfin, fun hnot => ?_⟩
      exact (Progress.isFinished_iff.mp hfin).resolve_left fun hgood =>
        hnot (ht.started_of_succeeded hgood)
  · intro w₁ w₂ r₁ r₂ hs₁ hs₂ x₁ x₂ s₁ s₂ hr₁ hr₂ hc₁ hc₂ hok₁ hok₂ hsum₁ hsum₂ hassets
    have ht₁ := traced_of_run hplan hr₁
    have ht₂ := traced_of_run hplan hr₂
    have hfin₁ := hr₁.isFinished hplan hc₁ hsum₁
    have hfin₂ := hr₂.isFinished hplan hc₂ hsum₂
    -- the same tasks end well in both runs, so that the same assets have errors
    have hsame := fun i hi => ht₁.succeeded_congr ht₂ hfin₁ hfin₂ hok₁ hok₂ (i := i) hi
    have herr := ht₁.error?_congr ht₂ hfin₁ hfin₂ hsame
    obtain ⟨-, hsucc₁, hfail₁⟩ := hr₁.summary_eq hplan hc₁ hsum₁
    obtain ⟨-, hsucc₂, hfail₂⟩ := hr₂.summary_eq hplan hc₂ hsum₂
    have hnone : ∀ a, (x₁.schedule.progress.error? a).isNone =
        (x₂.schedule.progress.error? a).isNone := fun a => by
      rw [← Option.not_isSome, ← Option.not_isSome, herr]
    refine ⟨ht₁.started_congr ht₂ hfin₁ hfin₂ hsame, ?_, ?_,
      status?_congr ht₁ ht₂ hfin₁ hfin₂ herr (hr₁.noted hplan) (hr₂.noted hplan) hassets⟩
    · rw [hsucc₁, hsucc₂]
      simp only [hnone]
    · rw [hfail₁, hfail₂]
      simp only [herr]

/-- A whole run of the small pipeline. -/
def smallHistory : List Happening :=
  [.concluded, .ended 1 .succeeded, .started 1, .ended 0 .succeeded, .started 0]

theorem small_run_to_end (hworkers : workers = 1 ∨ workers = 3) : ∃ x s, x.summary = some s ∧
    Run RunPlan.smallPlan workers (begin RunPlan.smallPipeline RunPlan.smallPlan smallRecorder)
      smallHistory x ∧
    EndsAs RunPlan.smallPlan (fun _ => true) smallHistory := by
  have hok : EndsAs RunPlan.smallPlan (fun _ => true) smallHistory := by
    rintro i o t hended -
    have ho : o = .succeeded := by
      simp only [smallHistory, List.mem_cons, Happening.ended.injEq, reduceCtorEq, false_or,
        List.not_mem_nil, or_false] at hended
      exact hended.elim And.right And.right
    rw [ho]
    rfl
  rcases hworkers with rfl | rfl <;>
    exact ⟨_, _, rfl, .next (.next (.next (.next (.next .nil (.start rfl rfl rfl))
      (.finish rfl rfl (List.mem_cons_self ..))) (.start rfl rfl rfl))
      (.finish rfl rfl (List.mem_cons_self ..))) (.conclude rfl rfl rfl), hok⟩

/-- A run of the small pipeline with one worker leaves nothing pending, and one with three workers
leaves the same assets succeeded. -/
theorem small_runs_succeed_alike : ∃ x₁ x₃ s₁ s₃, x₁.summary = some s₁ ∧ x₃.summary = some s₃ ∧
    Run RunPlan.smallPlan 1 (begin RunPlan.smallPipeline RunPlan.smallPlan smallRecorder)
      smallHistory x₁ ∧
    Run RunPlan.smallPlan 3 (begin RunPlan.smallPipeline RunPlan.smallPlan smallRecorder)
      smallHistory x₃ ∧ s₁.pending = [] ∧ s₁.succeeded = s₃.succeeded := by
  obtain ⟨x₁, s₁, hsum₁, hx₁, hok⟩ := small_run_to_end (.inl rfl)
  obtain ⟨x₃, s₃, hsum₃, hx₃, -⟩ := small_run_to_end (.inr rfl)
  have hc : .cancelled ∉ smallHistory := by decide
  obtain ⟨hone, htwo⟩ := uncancelled_run RunPlan.build_smallPipeline fun _ => true
  exact ⟨x₁, x₃, s₁, s₃, hsum₁, hsum₃, hx₁, hx₃, ((hone 1 _ _ _ hx₁ hc hok).2.2 s₁ hsum₁).1,
    (htwo 1 3 _ _ _ _ _ _ _ _ hx₁ hx₃ hc hc hok hok hsum₁ hsum₃ rfl).2.1⟩

end Execution

end AssetFlow
