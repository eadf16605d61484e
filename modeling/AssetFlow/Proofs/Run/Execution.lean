import AssetFlow.Proofs.Run.Schedule
import AssetFlow.Run.Execution

/-!
# What happens in a run and what the scheduler knows of it

Whatever the world does, the scheduler keeps to its rules, and what it knows of the tasks is what
has happened: the running tasks are those that were handed over and have not ended, and a task has
ended well in its books if and only if it has done so.

## Main definitions

- `Execution.Traced`: the books of the scheduler agree with what has happened

## Main statements

- `Execution.Traced.step`: one happening
- `Execution.traced_of_run`: a whole run of a plan
-/

namespace AssetFlow

/-- The tasks that are handed over are those that were started. -/
theorem mem_handedOver {hs : List Happening} {i : Nat} :
    i ∈ handedOver hs ↔ .started i ∈ hs := by
  induction hs with
  | nil => simp [handedOver]
  | cons h hs ih => cases h <;> simp [handedOver, ih]

/-- Tasks are handed over in the order of the history. -/
theorem handedOver_append (later before : List Happening) :
    handedOver (later ++ before) = handedOver later ++ handedOver before := by
  induction later with
  | nil => rfl
  | cons h later ih => cases h <;> simp [handedOver, ih]

namespace Execution

open RunPlan (smallPipeline smallPlan plainConfig)

variable {p : Pipeline} {plan : RunPlan} {workers : Nat} {hs : List Happening}
  {x x₀ y : Execution} {h : Happening}

/-- The books of the scheduler agree with what has happened. -/
structure Traced (plan : RunPlan) (workers : Nat) (hs : List Happening) (x : Execution) : Prop where
  valid : x.schedule.Valid
  tasks_eq : x.schedule.progress.tasks = plan.tasks
  running_le : x.schedule.running.length ≤ max workers 1
  inFlight_perm : (inFlight hs).Perm x.schedule.running
  nodup_handedOver : (handedOver hs).Nodup
  started_iff : ∀ i, .started i ∈ hs ↔ i ∈ x.schedule.running ∨ ∃ o, .ended i o ∈ hs
  waits_of_started : ∀ i, .started i ∈ hs →
    ∀ j ∈ x.schedule.progress.waitsOf i, x.schedule.progress.Succeeded j
  outcome_of_ended : ∀ i o, .ended i o ∈ hs → x.schedule.progress.outcome? i = some o
  ended_of_succeeded : ∀ i, x.schedule.progress.Succeeded i → .ended i .succeeded ∈ hs
  cause_of_failed : ∀ i, x.schedule.progress.Failed i → (∃ m, .ended i (.failed m) ∈ hs) ∨
    ∃ j ∈ x.schedule.progress.waitsOf i, x.schedule.progress.Failed j

/-- Only tasks of the plan are started. -/
theorem Traced.lt_of_started {i : Nat} (ht : x.Traced plan workers hs) (hi : .started i ∈ hs) :
    i < plan.tasks.length := by
  rw [← ht.tasks_eq]
  rcases (ht.started_iff i).mp hi with hi | ⟨o, ho⟩
  · exact (ht.valid.of_mem_running hi).1
  · rw [← ht.valid.tallied.length_eq]
    by_contra hnot
    have hout := ht.outcome_of_ended i o ho
    rw [Progress.outcome?, List.getElem?_eq_none (Nat.le_of_not_lt hnot)] at hout
    cases hout

/-- A task waits for what the plan says. -/
theorem Traced.waitsOf_eq {i : Nat} {t : PlannedTask} (ht : x.Traced plan workers hs)
    (htask : plan.tasks[i]? = some t) : x.schedule.progress.waitsOf i = t.waitsFor :=
  Schedule.waitsOf_of_getElem? (by rwa [ht.tasks_eq])

/-- A task has the asset that the plan says. -/
theorem Traced.asset?_eq_some_iff {i : Nat} {a : AssetName} (ht : x.Traced plan workers hs) :
    x.schedule.progress.asset? i = some a ↔ ∃ t, plan.tasks[i]? = some t ∧ t.id.asset = a := by
  rw [Progress.asset?, ht.tasks_eq, Option.map_eq_some_iff]

/-- A task works on the asset that it is planned for. -/
theorem Traced.asset?_eq {i : Nat} {t : PlannedTask} (ht : x.Traced plan workers hs)
    (htask : plan.tasks[i]? = some t) : x.schedule.progress.asset? i = some t.id.asset :=
  ht.asset?_eq_some_iff.mpr ⟨t, htask, rfl⟩

/-- A task that was handed over waited for tasks that had ended well. -/
theorem Traced.ended_of_started {i : Nat} {t : PlannedTask} (ht : x.Traced plan workers hs)
    (hi : .started i ∈ hs) (htask : plan.tasks[i]? = some t) :
    ∀ j ∈ t.waitsFor, .ended j .succeeded ∈ hs := by
  intro j hj
  refine ht.ended_of_succeeded j (ht.waits_of_started i hi j ?_)
  rwa [ht.waitsOf_eq htask]

/-- Before a run begins nothing has happened. -/
theorem traced_begin {r : Recorder} (hback : RunPlan.WaitsBack plan.tasks)
    (hknown : ∀ t ∈ plan.tasks, t.id.asset ∈ p.names) :
    (begin p plan r).Traced plan workers [] := by
  have hopen : ∀ i, (begin p plan r).schedule.progress.outcome? i = none :=
    Progress.outcome?_begin plan.tasks r
  constructor
  case valid => exact Schedule.valid_begin r hback hknown
  case tasks_eq => rfl
  case running_le => exact Nat.zero_le _
  case inFlight_perm => exact .nil
  case nodup_handedOver => exact .nil
  case started_iff => simp [begin, Schedule.begin]
  case waits_of_started => simp
  case outcome_of_ended => simp
  case ended_of_succeeded =>
    intro i hi
    rw [Progress.Succeeded, hopen] at hi
    cases hi
  case cause_of_failed =>
    rintro i ⟨m, hm⟩
    rw [hopen] at hm
    cases hm

/-- A wish to cancel and the end of a run change nothing for the tasks. -/
theorem Traced.of_quiet (ht : x.Traced plan workers hs)
    (hquiet : h = .cancelled ∨ h = .concluded) (r : Recorder)
    (hy : y.schedule = { x.schedule with
      progress := { x.schedule.progress with recorder := r } }) :
    y.Traced plan workers (h :: hs) := by
  have hwaits : ∀ i, y.schedule.progress.waitsOf i = x.schedule.progress.waitsOf i := by
    intro i
    rw [hy]
    rfl
  have hout : ∀ i, y.schedule.progress.outcome? i = x.schedule.progress.outcome? i := by
    intro i
    rw [hy]
    rfl
  have hrunning : y.schedule.running = x.schedule.running := by rw [hy]
  have hended : ∀ i o, .ended i o ∈ h :: hs ↔ .ended i o ∈ hs := by
    rcases hquiet with rfl | rfl <;> simp
  have hstarted : ∀ i, .started i ∈ h :: hs ↔ .started i ∈ hs := by
    rcases hquiet with rfl | rfl <;> simp
  constructor
  case valid => exact hy ▸ ht.valid.withRecorder r
  case tasks_eq => simpa only [hy] using ht.tasks_eq
  case running_le => exact hrunning ▸ ht.running_le
  case inFlight_perm =>
    rw [hrunning]
    rcases hquiet with rfl | rfl <;> exact ht.inFlight_perm
  case nodup_handedOver => rcases hquiet with rfl | rfl <;> exact ht.nodup_handedOver
  case started_iff => simpa only [hstarted, hended, hrunning] using ht.started_iff
  case waits_of_started =>
    simpa only [hstarted, hwaits, Progress.Succeeded, hout] using ht.waits_of_started
  case outcome_of_ended => simpa only [hended, hout] using ht.outcome_of_ended
  case ended_of_succeeded =>
    simpa only [hended, Progress.Succeeded, hout] using ht.ended_of_succeeded
  case cause_of_failed =>
    simpa only [hended, hwaits, Progress.Failed, hout] using ht.cause_of_failed

/-- When a worker takes a task: there is room, the run is not cancelled, and a task is ready. -/
theorem takesTask_iff : x.takesTask workers = true ↔
    x.schedule.running.length < max workers 1 ∧ x.cancelled = false ∧ x.schedule.ready ≠ [] := by
  simp [takesTask, and_assoc]

/-- Starting the first ready task keeps a history traced. -/
theorem Traced.start {i : Nat} {rest : List Nat} (ht : x.Traced plan workers hs)
    (hlt : x.schedule.running.length < max workers 1) (hready : x.schedule.ready = i :: rest) :
    (x.withSchedule { x.schedule with
      ready := rest
      running := x.schedule.running ++ [i]
      progress := x.schedule.progress.start i }).Traced plan workers (.started i :: hs) := by
  have hi : i ∈ x.schedule.ready := hready ▸ List.mem_cons_self ..
  obtain ⟨-, hopen, hall⟩ := (ht.valid.active_iff i).mp (List.mem_append_left _ hi)
  have hidle : i ∉ x.schedule.running := fun hmem =>
    (List.nodup_append.mp ht.valid.nodup).2.2 i hi i hmem rfl
  constructor
  case valid => exact ht.valid.start hready
  case tasks_eq => simpa [withSchedule] using ht.tasks_eq
  case running_le =>
    simp only [withSchedule, List.length_append, List.length_singleton]
    omega
  case inFlight_perm =>
    exact (ht.inFlight_perm.cons i).trans (List.perm_append_singleton i _).symm
  case nodup_handedOver =>
    refine List.nodup_cons.mpr ⟨fun hmem => ?_, ht.nodup_handedOver⟩
    -- a task that was handed over before is running or has an outcome, and this one has neither
    rcases (ht.started_iff i).mp (mem_handedOver.mp hmem) with hmem | ⟨o, ho⟩
    · exact hidle hmem
    · rw [ht.outcome_of_ended i o ho] at hopen
      cases hopen
  case started_iff =>
    intro j
    simp only [List.mem_cons, Happening.started.injEq, reduceCtorEq, false_or, ht.started_iff,
      withSchedule, List.mem_append, List.not_mem_nil, or_false]
    tauto
  case waits_of_started =>
    intro j hj k hk
    simp only [withSchedule, Progress.waitsOf_start] at hk
    simp only [withSchedule, Progress.Succeeded, Progress.outcome?_start]
    rcases List.mem_cons.mp hj with heq | hj
    · obtain rfl := Happening.started.inj heq
      exact hall k hk
    · exact ht.waits_of_started j hj k hk
  case outcome_of_ended => simpa [withSchedule] using ht.outcome_of_ended
  case ended_of_succeeded => simpa [withSchedule, Progress.Succeeded] using ht.ended_of_succeeded
  case cause_of_failed => simpa [withSchedule, Progress.Failed] using ht.cause_of_failed

/-! ### A task ends -/

section Ending

variable {i j : Nat} {o : Outcome} {t : Schedule}

/-- An outcome stays what it is when a task ends. -/
theorem Traced.outcome?_ends (ht : x.Traced plan workers hs) (hends : x.schedule.Ends i o t)
    {o' : Outcome} (hj : x.schedule.progress.outcome? j = some o') :
    t.progress.outcome? j = some o' :=
  ht.valid.tallied.outcome?_advance hends.advance hj

/-- The tasks that were handed over are those that are still running and those that have ended. -/
theorem Traced.started_iff_ends (ht : x.Traced plan workers hs) (hi : i ∈ x.schedule.running)
    (o : Outcome) (j : Nat) : .started j ∈ hs ↔
      j ∈ x.schedule.running.filter (· != i) ∨ ∃ o', .ended j o' ∈ .ended i o :: hs := by
  simp only [ht.started_iff, List.mem_filter, bne_iff_ne, List.mem_cons, Happening.ended.injEq]
  constructor
  · rintro (hj | ⟨o', ho'⟩)
    · rcases eq_or_ne j i with rfl | hne
      · exact .inr ⟨o, .inl ⟨rfl, rfl⟩⟩
      · exact .inl ⟨hj, hne⟩
    · exact .inr ⟨o', .inr ho'⟩
  · rintro (⟨hj, -⟩ | ⟨o', ⟨rfl, rfl⟩ | ho'⟩)
    · exact .inl hj
    · exact .inl hi
    · exact .inr ⟨o', ho'⟩

/-- A task that has ended has the outcome that it ended with. -/
theorem Traced.outcome_of_ended_ends (ht : x.Traced plan workers hs)
    (hends : x.schedule.Ends i o t) {o' : Outcome} (hj : .ended j o' ∈ .ended i o :: hs) :
    t.progress.outcome? j = some o' := by
  rcases List.mem_cons.mp hj with heq | hj
  · obtain ⟨rfl, rfl⟩ := Happening.ended.inj heq
    exact hends.outcome?_self
  · exact ht.outcome?_ends hends (ht.outcome_of_ended j o' hj)

/-- A task that the books show as succeeded has ended well: all that an ending brings about besides
are failures. -/
theorem Traced.ended_of_succeeded_ends (ht : x.Traced plan workers hs)
    (hends : x.schedule.Ends i o t) (hj : t.progress.Succeeded j) :
    .ended j .succeeded ∈ .ended i o :: hs := by
  rcases eq_or_ne j i with rfl | hne
  · obtain rfl := Option.some.inj (hends.outcome?_self.symm.trans hj)
    exact List.mem_cons_self ..
  · rcases hends.outcome?_or j hne with heq | ⟨-, -, a, -, heq⟩
    · exact List.mem_cons_of_mem _ (ht.ended_of_succeeded j (heq.symm.trans hj))
    · cases heq.symm.trans hj

/-- A task that has failed ended badly itself, or waits for one that has failed. -/
theorem Traced.cause_of_failed_ends (ht : x.Traced plan workers hs)
    (hends : x.schedule.Ends i o t) (hj : t.progress.Failed j) :
    (∃ m, .ended j (.failed m) ∈ .ended i o :: hs) ∨
      ∃ d ∈ x.schedule.progress.waitsOf j, t.progress.Failed d := by
  obtain ⟨m, hm⟩ := hj
  rcases eq_or_ne j i with rfl | hne
  · obtain rfl := Option.some.inj (hends.outcome?_self.symm.trans hm)
    exact .inl ⟨m, List.mem_cons_self ..⟩
  · rcases hends.outcome?_or j hne with heq | ⟨-, hcause, -⟩
    -- the task had failed before: its cause stays what it was
    · rcases ht.cause_of_failed j ⟨m, heq.symm.trans hm⟩ with ⟨m', hm'⟩ | ⟨d, hd, m', hm'⟩
      · exact .inl ⟨m', List.mem_cons_of_mem _ hm'⟩
      · exact .inr ⟨d, hd, m', ht.outcome?_ends hends hm'⟩
    · exact .inr hcause

/-- The books stay right when a running task ends. -/
theorem Traced.finish (ht : x.Traced plan workers hs) (hi : i ∈ x.schedule.running) :
    (x.withSchedule (x.schedule.finish i o)).Traced plan workers (.ended i o :: hs) := by
  have hends := ht.valid.ends_finish hi o
  have htasks := Progress.tasks_advance hends.advance
  have hwaits : ∀ j, (x.schedule.finish i o).progress.waitsOf j =
      x.schedule.progress.waitsOf j := fun j => by simp only [Progress.waitsOf, htasks]
  constructor
  case valid => exact ht.valid.finish hi
  case tasks_eq => exact htasks.trans ht.tasks_eq
  case running_le =>
    simp only [withSchedule, hends.running_eq]
    exact Nat.le_trans (List.length_filter_le _ _) ht.running_le
  case inFlight_perm =>
    simp only [withSchedule, inFlight, hends.running_eq]
    -- a task runs once, so that taking it out once takes it out for good
    have hnd := (List.nodup_append.mp ht.valid.nodup).2.1
    rw [← List.Nodup.erase_eq_filter hnd]
    exact ht.inFlight_perm.erase i
  case nodup_handedOver => exact ht.nodup_handedOver
  case started_iff =>
    intro j
    have hstarted := ht.started_iff_ends hi o j
    simpa only [withSchedule, hends.running_eq, List.mem_cons, reduceCtorEq, false_or] using
      hstarted
  case waits_of_started =>
    intro j hj k hk
    simp only [withSchedule, hwaits] at hk
    have hj : .started j ∈ hs := by simpa using hj
    exact ht.outcome?_ends hends (ht.waits_of_started j hj k hk)
  case outcome_of_ended => exact fun j o' hj => ht.outcome_of_ended_ends hends hj
  case ended_of_succeeded => exact fun j hj => ht.ended_of_succeeded_ends hends hj
  case cause_of_failed =>
    intro j hj
    simp only [withSchedule, hwaits]
    exact ht.cause_of_failed_ends hends hj

end Ending

/-- **The books stay right** whatever happens. -/
theorem Traced.step (ht : x.Traced plan workers hs) (hstep : Step plan workers x h y) :
    y.Traced plan workers (h :: hs) := by
  cases hstep with
  | cancel _ => exact ht.of_quiet (.inl rfl) _ rfl
  | start _ htakes hstart =>
    obtain ⟨i, rest, hready, heq, rfl⟩ := ht.valid.of_start?_eq hstart
    obtain rfl := Dispatch.handed.inj heq
    exact ht.start (takesTask_iff.mp htakes).1 hready
  | refuse _ _ hstart =>
    obtain ⟨i, rest, -, heq, -⟩ := ht.valid.of_start?_eq hstart
    cases heq
  | finish _ _ hi => exact ht.finish hi
  | conclude _ _ _ => exact ht.of_quiet (.inr rfl) _ rfl

/-- **The books are right** throughout every run of a plan on its pipeline. -/
theorem traced_of_run {c : RunConfig} {previous : Option RunState} {r : Recorder}
    (hplan : RunPlan.build p c previous = .ok plan) (hr : Run plan workers (begin p plan r) hs x) :
    x.Traced plan workers hs := by
  induction hr with
  | nil =>
    exact traced_begin (RunPlan.waitsBack_of_build hplan) fun _ ht =>
      RunPlan.asset_mem_names hplan ht
  | next _ hstep ih => exact ih.step hstep

/-! ### Runs -/

variable {c : RunConfig} {previous : Option RunState} {r : Recorder} {later before : List Happening}

/-- The older part of a history is a run by itself. -/
theorem Run.of_append (hr : Run plan workers x₀ (later ++ before) x) :
    ∃ y, Run plan workers x₀ before y := by
  induction later generalizing x with
  | nil => exact ⟨x, hr⟩
  | cons h later ih =>
    cases hr with
    | next hr hstep => exact ih hr

/-- Runs are put one after the other. -/
theorem Run.append (hr : Run plan workers x₀ before x) (hlater : Run plan workers x later y) :
    Run plan workers x₀ (later ++ before) y := by
  induction hlater with
  | nil => exact hr
  | next _ hstep ih => exact .next ih hstep

/-- A run passes through a state before and a state after each thing that happens in it. -/
theorem Run.split (hr : Run plan workers x₀ (later ++ h :: before) x) :
    ∃ y z, Run plan workers x₀ before y ∧ Step plan workers y h z := by
  obtain ⟨z, hz⟩ := hr.of_append
  cases hz with
  | @next _ y _ _ hy hstep => exact ⟨y, z, hy, hstep⟩

/-- A run is cancelled exactly if its history says so. -/
theorem Run.cancelled_iff (hr : Run plan workers (begin p plan r) hs x) :
    x.cancelled = true ↔ .cancelled ∈ hs := by
  induction hr with
  | nil => simp [begin]
  | next _ hstep ih => cases hstep <;> simp [withSchedule, conclude, ih]

theorem conclude_eq (plan : RunPlan) (x : Execution) : x.conclude plan = { x with
    schedule := { x.schedule with progress := { x.schedule.progress with
      recorder := (x.schedule.progress.summary plan x.cancelled).2 } }
    summary := some (x.schedule.progress.summary plan x.cancelled).1 } :=
  rfl

/-- Nothing happens after the summary. -/
theorem Step.summary_none (hstep : Step plan workers x h y) : x.summary = none := by
  cases hstep <;> assumption

/-- A run is summed up when no task is running and none is to be taken. -/
theorem Step.concludes {s : RunSummary} (hstep : Step plan workers x h y)
    (hs : y.summary = some s) : h = .concluded ∧ x.takesTask workers = false ∧
      x.schedule.running = [] ∧ y = x.conclude plan := by
  cases hstep with
  | cancel hnone => exact absurd (hnone.symm.trans hs) (by simp)
  | start hnone => exact absurd (hnone.symm.trans hs) (by simp)
  | refuse hnone => exact absurd (hnone.symm.trans hs) (by simp)
  | finish hnone => exact absurd (hnone.symm.trans hs) (by simp)
  | conclude _ htakes hidle => exact ⟨rfl, htakes, hidle, rfl⟩

/-- A run that is over was summed up when no task was running and none was to be taken. -/
theorem Run.concluded {s : RunSummary} (hr : Run plan workers (begin p plan r) hs x)
    (hs' : x.summary = some s) : ∃ before y, hs = .concluded :: before ∧
      Run plan workers (begin p plan r) before y ∧ y.summary = none ∧
      y.takesTask workers = false ∧ y.schedule.running = [] ∧ x = y.conclude plan := by
  cases hr with
  | nil => cases hs'
  | @next before y _ _ hr hstep =>
    obtain ⟨rfl, htakes, hidle, rfl⟩ := hstep.concludes hs'
    exact ⟨before, y, rfl, hr, hstep.summary_none, htakes, hidle, rfl⟩

/-- Until a run is summed up, tasks are started and finished one after another. -/
theorem Traced.advance_step (ht : x.Traced plan workers hs) (hstep : Step plan workers x h y)
    (hnone : y.summary = none) : x.schedule.progress.Advance y.schedule.progress := by
  cases hstep with
  | cancel _ => exact .refl
  | start _ _ hstart =>
    obtain ⟨i, rest, hready, -, rfl⟩ := ht.valid.of_start?_eq hstart
    obtain ⟨hlt, hopen, -⟩ := (ht.valid.active_iff i).mp (by simp [hready])
    obtain ⟨a, ha⟩ := Progress.exists_asset? hlt
    exact .single (.start ha hopen)
  | refuse _ _ hstart =>
    obtain ⟨i, rest, -, heq, -⟩ := ht.valid.of_start?_eq hstart
    cases heq
  | finish _ _ hi => exact (ht.valid.ends_finish hi _).advance
  | conclude _ _ _ => cases hnone

/-- An outcome stays in whatever happens, also when the run is summed up. -/
theorem Traced.outcome?_step {i : Nat} {o : Outcome} (ht : x.Traced plan workers hs)
    (hstep : Step plan workers x h y) (hi : x.schedule.progress.outcome? i = some o) :
    y.schedule.progress.outcome? i = some o := by
  cases hsum : y.summary with
  | none => exact ht.valid.tallied.outcome?_advance (ht.advance_step hstep hsum) hi
  | some s =>
    obtain ⟨-, -, -, rfl⟩ := hstep.concludes hsum
    exact hi

/-- Until the summary, a run is a row of advances of the progress. -/
theorem Run.advance (hplan : RunPlan.build p c previous = .ok plan)
    (hr : Run plan workers (begin p plan r) hs x) (hnone : x.summary = none) :
    (Progress.begin plan.tasks r).Advance x.schedule.progress := by
  induction hr with
  | nil => exact .refl
  | next hr hstep ih =>
    exact (ih hstep.summary_none).trans ((traced_of_run hplan hr).advance_step hstep hnone)

/-! ### A run of the small pipeline -/

/-- What a run of the small pipeline begins with. -/
def smallRecorder : Recorder :=
  Run.initialRecorder smallPipeline plainConfig smallPlan

/-- A run of the small pipeline in which its second asset is under way. -/
theorem small_run : ∃ x, Run smallPlan 1 (begin smallPipeline smallPlan smallRecorder)
    [.started 1, .ended 0 .succeeded, .started 0] x :=
  ⟨_, .next (.next (.next .nil (.start rfl rfl rfl)) (.finish rfl rfl (List.mem_cons_self ..)))
    (.start rfl rfl rfl)⟩

end Execution

end AssetFlow
