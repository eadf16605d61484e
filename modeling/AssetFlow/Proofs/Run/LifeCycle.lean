import AssetFlow.Proofs.Run.Completion
import AssetFlow.Proofs.Run.Resume
import AssetFlow.Proofs.Run.Status

/-!
# The life cycle of an asset in a run

Every step of a run changes the statuses of assets as their life cycle allows. An asset is running
if one of its tasks is, so that the outcome of its last task finds it where it may succeed or fail,
and a run that is cancelled sets the assets back that it does not come to. When the run is over, its
record, its file and its summary say the same of each asset.

## Main statements

- `Execution.Run.moves_step`: every step of a run changes statuses as the life cycle allows
- `Execution.Run.status?_of_concluded`: the statuses that a run leaves behind
- `Process.life_cycle`: the life cycle, and how the record, the file and the summary agree
-/

namespace AssetFlow

open Relation (ReflTransGen)
open RunPlan (smallPipeline smallPlan plainConfig orders report)

variable {givesUp : Prop}

namespace Execution

variable {p : Pipeline} {c : RunConfig} {previous : Option RunState} {plan : RunPlan}
  {workers : Nat} {r : Recorder} {hs later : List Happening} {h : Happening} {x x₀ y : Execution}
  {i : Nat} {a : AssetName} {s : RunSummary}

theorem phased_begin (hplan : RunPlan.build p c previous = .ok plan) :
    (Progress.begin plan.tasks (Run.initialRecorder p c plan)).Phased := by
  obtain ⟨g, order, chosen, toRun, hb⟩ := RunPlan.build_ok hplan
  rintro name ⟨i, a, ha, rfl, -⟩
  obtain ⟨t, ht, rfl⟩ := Option.map_eq_some_iff.mp ha
  have hreason := hb.reason?_eq_none (RunPlan.mem_scheduled.mpr ⟨i, t, ht, rfl⟩)
  exact .inl (Run.status?_initialState_of_mem
    (RunPlan.asset_mem_names hplan (List.mem_of_getElem? ht)) hreason)

theorem Run.phased (hplan : RunPlan.build p c previous = .ok plan)
    (hr : Run plan workers (begin p plan (Run.initialRecorder p c plan)) hs x)
    (hnone : x.summary = none) : x.schedule.progress.Phased :=
  (phased_begin hplan).advance (Progress.tallied_begin _ _) (hr.advance hplan hnone)

/-- The assets of the tasks that are running are running. -/
theorem Run.status?_of_running (hplan : RunPlan.build p c previous = .ok plan)
    (hr : Run plan workers (begin p plan r) hs x) (hnone : x.summary = none)
    (hi : i ∈ x.schedule.running) (ha : x.schedule.progress.asset? i = some a) :
    x.recorder.state.status? a.text = some .running := by
  induction hr generalizing i a with
  | nil => cases hi
  | @next hs x y e hr hstep ih =>
    have ht := traced_of_run hplan hr
    have hopen := ((ht.step hstep).valid.of_mem_running hi).2.1
    have hadvance := ht.advance_step hstep hnone
    -- a task that was running before has no outcome yet, so that its asset is still running
    have hkept : i ∈ x.schedule.running → y.recorder.state.status? a.text = some .running := fun hold =>
      ht.valid.tallied.status?_running_advance hadvance ⟨i, a, ha, rfl, hopen⟩
        (ih hstep.summary_none hold (by rwa [Progress.asset?, ← Progress.tasks_advance hadvance]))
    cases hstep with
    | cancel _ => exact hkept hi
    | start _ _ hstart =>
      obtain ⟨j, rest, -, -, rfl⟩ := ht.valid.of_start?_eq hstart
      rcases List.mem_append.mp hi with hold | hnew
      · exact hkept hold
      · obtain rfl := List.mem_singleton.mp hnew
        have ha : x.schedule.progress.asset? i = some a := by simpa [withSchedule] using ha
        simp only [recorder, withSchedule, Progress.status?_start ha, if_pos]
    | refuse _ _ hstart =>
      obtain ⟨j, rest, -, heq, -⟩ := ht.valid.of_start?_eq hstart
      cases heq
    | finish _ _ hj =>
      have hi : i ∈ (x.schedule.finish _ _).running := hi
      rw [(ht.valid.ends_finish hj _).running_eq] at hi
      exact hkept (List.mem_filter.mp hi).1
    | conclude _ _ _ => cases hnone

theorem Traced.plans_iff (ht : x.Traced plan workers hs) {name : String} :
    x.schedule.progress.Plans name ↔ ∃ a ∈ plan.scheduled, a.text = name := by
  simp only [Progress.Plans, ht.asset?_eq_some_iff, RunPlan.mem_scheduled]
  constructor
  · rintro ⟨i, a, ⟨t, htask, hasset⟩, rfl⟩
    exact ⟨a, ⟨i, t, htask, hasset⟩, rfl⟩
  · rintro ⟨a, ⟨i, t, htask, hasset⟩, rfl⟩
    exact ⟨i, a, ⟨t, htask, hasset⟩, rfl⟩

/-- When a task ends, this is noted as the life cycle allows. -/
theorem Traced.moves_finish {o : Outcome} (ht : x.Traced plan workers hs)
    (hphased : x.schedule.progress.Phased)
    (hi : i ∈ x.schedule.running) (ha : x.schedule.progress.asset? i = some a)
    (hrunning : x.recorder.state.status? a.text = some .running) :
    ReflTransGen (RunState.Moves givesUp) x.recorder.state
      (x.schedule.finish i o).progress.recorder.state := by
  have hopen := (ht.valid.of_mem_running hi).2.1
  have hmove : x.schedule.progress.Move (x.schedule.progress.finish i o) := .finish o ha hopen
  have hself : ReflTransGen (RunState.Moves givesUp) x.recorder.state
      (x.schedule.progress.finish i o).recorder.state :=
    hphased.moves_finish ha hopen fun _ => hrunning
  cases o with
  | succeeded =>
    rw [Schedule.finish_succeeded]
    exact hself
  | failed message =>
    obtain ⟨q, hq, hspread⟩ := Schedule.finish_failed message ht.valid.tallied ha hopen
    rw [hq]
    -- what fails along with the task has not ended well
    exact hself.trans ((hphased.advance ht.valid.tallied (.single hmove)).moves_advance
      (ht.valid.tallied.move hmove) hspread.advance fun _ => hspread.succeeded_iff.mp)

/-- If a run is summed up while a task has no outcome, then it was cancelled. -/
theorem Run.cancelled_of_open (hplan : RunPlan.build p c previous = .ok plan)
    (hr : Run plan workers (begin p plan r) hs x) (hsum : x.summary = some s)
    (ha : 0 < x.schedule.progress.remainingOf a) : s.cancelled = true := by
  have ht := traced_of_run hplan hr
  obtain ⟨i, b, hb, -, hopen⟩ := ht.valid.tallied.isOpen_of_remainingOf_pos ha
  have hlt := Progress.asset?_lt hb
  have hcancelled : x.cancelled = true := by
    rw [hr.cancelled_iff]
    by_contra hc
    have hfin := hr.isFinished hplan hc hsum i (ht.tasks_eq ▸ hlt)
    rw [Progress.isFinished, hopen] at hfin
    cases hfin
  have hunfinished : x.schedule.progress.hasUnfinished = true := by
    rw [← ht.valid.tallied.length_eq] at hlt
    rw [Progress.outcome?, List.getElem?_eq_getElem hlt, Option.getD_some] at hopen
    exact List.any_eq_true.mpr ⟨_, List.getElem_mem hlt, by rw [hopen]; rfl⟩
  obtain ⟨before, z, -, -, -, -, -, rfl⟩ := hr.concluded hsum
  obtain rfl := Option.some.inj hsum
  exact Bool.and_eq_true_iff.mpr ⟨hcancelled, hunfinished⟩

/-- **Every step of a run changes statuses as the life cycle allows**, and none is set back except
when a cancelled run is summed up. -/
theorem Run.moves_step (hplan : RunPlan.build p c previous = .ok plan)
    (hr : Run plan workers (begin p plan (Run.initialRecorder p c plan)) hs x)
    (hstep : Step plan workers x h y) :
    ReflTransGen (RunState.Moves (∃ s, y.summary = some s ∧ s.cancelled = true)) x.recorder.state
      y.recorder.state := by
  have ht := traced_of_run hplan hr
  have hnone := hstep.summary_none
  have hphased := hr.phased hplan hnone
  cases hstep with
  | cancel _ => exact .refl
  | start _ _ hstart =>
    obtain ⟨i, rest, hready, -, rfl⟩ := ht.valid.of_start?_eq hstart
    obtain ⟨hlt, hopen, -⟩ := (ht.valid.active_iff i).mp (by simp [hready])
    obtain ⟨a, ha⟩ := Progress.exists_asset? hlt
    exact hphased.moves_start ha hopen
  | refuse _ _ hstart =>
    obtain ⟨i, rest, -, heq, -⟩ := ht.valid.of_start?_eq hstart
    cases heq
  | finish _ _ hi =>
    obtain ⟨a, ha⟩ := Progress.exists_asset? (ht.valid.of_mem_running hi).1
    exact ht.moves_finish hphased hi ha (hr.status?_of_running hplan hnone hi ha)
  | conclude _ htakes hidle =>
    have hsum : (x.conclude plan).summary = some _ := rfl
    have hend : Run plan workers _ _ (x.conclude plan) := .next hr (.conclude hnone htakes hidle)
    have hstate : (x.conclude plan).recorder.state =
        (x.schedule.progress.recordLast x.recorder plan.scheduled).state := by
      rw [recorder, conclude_eq, Progress.summary_eq]
      rfl
    rw [hstate]
    refine Progress.moves_recordLast (fun a hlast => ⟨_, hsum, ?_⟩) fun a status hlast => ?_
    · exact hend.cancelled_of_open hplan hsum (Progress.lastStatus?_eq_some hlast).1
    · have hopen := ht.valid.tallied.isOpen_of_remainingOf_pos (Progress.lastStatus?_eq_some hlast).1
      exact (hphased a.text hopen).elim (fun hold => ⟨_, hold, .inr (.inl rfl)⟩)
        fun hold => ⟨_, hold, .inr (.inr rfl)⟩

/-- What is left out of a run stays so, for the same reason. -/
theorem Run.entryOf?_of_skipped (hplan : RunPlan.build p c previous = .ok plan)
    (hr : Run plan workers (begin p plan (Run.initialRecorder p c plan)) hs x) {reason : SkipReason}
    (ha : (a, reason) ∈ plan.skipped) :
    x.recorder.state.entryOf? a.text = some ⟨a.text, .skipped, some reason⟩ := by
  obtain ⟨g, order, chosen, toRun, hb⟩ := RunPlan.build_ok hplan
  rw [hb.mem_skipped_iff_reason?] at ha
  refine ((hr.noted hplan).elsewhere a.text ?_).trans (Run.entryOf?_initialState_of_some hb ha)
  -- an asset that is left out has no tasks
  rw [(traced_of_run hplan hr).plans_iff]
  rintro ⟨b, hsched, heq⟩
  have hnone := hb.reason?_eq_none hsched
  rw [heq, ha] at hnone
  cases hnone

/-- **The statuses that a run leaves behind.** -/
theorem Run.status?_of_concluded (hplan : RunPlan.build p c previous = .ok plan)
    (hr : Run plan workers (begin p plan r) hs x) (hsum : x.summary = some s)
    (ha : a ∈ plan.scheduled) :
    x.recorder.state.status? a.text = some (x.schedule.progress.endStatus a) := by
  have ht := traced_of_run hplan hr
  obtain ⟨i, t, htask, rfl⟩ := RunPlan.mem_scheduled.mp ha
  by_cases hzero : x.schedule.progress.remainingOf t.id.asset = 0
  · rw [Progress.endStatus_eq_finalStatus hzero]
    exact (hr.noted hplan).status_eq i _ (ht.asset?_eq htask) hzero
  · obtain ⟨before, z, -, -, -, -, -, rfl⟩ := hr.concluded hsum
    obtain ⟨status, hlast⟩ : ∃ status, z.schedule.progress.lastStatus? t.id.asset = some status := by
      have hpos : z.schedule.progress.remainingOf t.id.asset ≠ 0 := hzero
      rw [Progress.lastStatus?, if_neg hpos]
      split
      · exact ⟨_, rfl⟩
      · exact ⟨_, rfl⟩
    have hend : (z.conclude plan).schedule.progress.endStatus t.id.asset = status :=
      Progress.endStatus_eq_of_lastStatus? hlast
    rw [hend, recorder, conclude_eq, Progress.summary_eq]
    exact Progress.status?_recordLast hlast (.inl ha)

/-- When a run is over, no asset is running. -/
theorem Run.not_running_of_concluded (hplan : RunPlan.build p c previous = .ok plan)
    (hr : Run plan workers (begin p plan (Run.initialRecorder p c plan)) hs x)
    (hsum : x.summary = some s) (name : String) :
    x.recorder.state.status? name ≠ some .running := by
  by_cases hname : x.schedule.progress.Plans name
  · obtain ⟨a, ha, rfl⟩ := (traced_of_run hplan hr).plans_iff.mp hname
    rw [hr.status?_of_concluded hplan hsum ha]
    exact fun heq => Progress.endStatus_ne_running (Option.some.inj heq)
  · rw [RunState.status?, recorder, (hr.noted hplan).elsewhere name hname]
    exact Run.status?_initialState_ne_running name

/-- The summary lists the assets with tasks by the statuses that the run leaves behind, and the
assets that are left out. -/
theorem Run.mem_summary_iff (hr : Run plan workers (begin p plan r) hs x)
    (hsum : x.summary = some s) :
    (a.text ∈ s.succeeded ↔
      a ∈ plan.scheduled ∧ x.schedule.progress.endStatus a = .succeeded) ∧
    (a.text ∈ s.failed.map Prod.fst ↔
      a ∈ plan.scheduled ∧ x.schedule.progress.endStatus a = .failed) ∧
    (a.text ∈ s.pending ↔ a ∈ plan.scheduled ∧ x.schedule.progress.endStatus a = .pending) ∧
    (a.text ∈ s.skipped.map Prod.fst ↔ ∃ reason, (a, reason) ∈ plan.skipped) := by
  obtain ⟨before, z, -, -, -, -, -, rfl⟩ := hr.concluded hsum
  obtain rfl : (z.schedule.progress.summary plan z.cancelled).1 = s := Option.some.inj hsum
  exact ⟨Progress.mem_succeeded_summary, Progress.mem_failed_summary, Progress.mem_pending_summary,
    Progress.mem_skipped_summary⟩

/-- The tasks of an asset that has succeeded in the end have all ended well. -/
theorem Traced.doneWith_of_endStatus (ht : x.Traced plan workers hs)
    (hend : x.schedule.progress.endStatus a = .succeeded) : plan.DoneWith hs a := by
  intro i t htask hasset
  have hzero := (Progress.endStatus_eq_succeeded_iff.mp hend).2
  rw [Progress.endStatus_eq_finalStatus hzero] at hend
  exact ht.ended_of_succeeded i (ht.valid.tallied.succeeded_of_finalStatus
    (ht.asset?_eq_some_iff.mpr ⟨t, htask, hasset⟩) hzero hend)

/-- An asset has failed in the end if and only if one of its tasks failed. -/
theorem Traced.endStatus_eq_failed_iff (ht : x.Traced plan workers hs) :
    x.schedule.progress.endStatus a = .failed ↔ ∃ i t message, plan.tasks[i]? = some t ∧
      t.id.asset = a ∧ x.schedule.progress.outcome? i = some (.failed message) := by
  rw [Progress.endStatus_eq_failed_iff, ht.valid.tallied.error_iff]
  simp only [ht.asset?_eq_some_iff, Progress.Failed]
  constructor
  · rintro ⟨i, ⟨t, htask, hasset⟩, message, hfailed⟩
    exact ⟨i, t, message, htask, hasset, hfailed⟩
  · rintro ⟨i, t, message, htask, hasset, hfailed⟩
    exact ⟨i, ⟨t, htask, hasset⟩, message, hfailed⟩

end Execution

namespace Process

variable {p : Pipeline} {c : RunConfig} {store : Store} {startedAt : Moment} {t : Tree}
  {hs : List Happening} {P : Process} {plan : RunPlan} {x : Execution} {s : RunSummary}

/-- When a run is over and its state is saved, its file holds this state. -/
theorem Carries.read?_of_concluded (hc : Carries p c store startedAt t hs P plan x)
    (hsum : x.summary = some s) (hpending : P.pending = []) :
    P.files.read? (store.runPath startedAt) = some x.recorder.state.text := by
  refine hc.read?_eq ?_ (.inl rfl)
  obtain ⟨before, y, -, -, -, -, -, rfl⟩ := hc.run.concluded hsum
  rw [hc.kept?_eq, hpending]
  rfl

/-- **The life cycle of the assets of a run.** Every step of a run changes statuses as the life
cycle allows, and an asset that is running is set back only when a cancelled run is summed up. A
final status stays as it is, and so do the assets that are left out, with their reasons. When a run
is over, no asset is running; the assets with tasks are succeeded, failed or pending on record as
they are in the summary; they have succeeded only if all their tasks ended well, and have failed if
and only if one of their tasks failed; and once the state is saved, the file of the run holds it. -/
theorem life_cycle (hr : Process.Run p c store startedAt t hs P) (hstage : P.stage = .going plan x) :
    (∀ h y, Execution.Step plan c.workers x h y →
      ReflTransGen (RunState.Moves (∃ s, y.summary = some s ∧ s.cancelled = true))
        x.recorder.state y.recorder.state) ∧
    (∀ later y, Execution.Run plan c.workers x later y → ∀ name e,
      x.recorder.state.entryOf? name = some e → e.status.isTerminal = true →
        y.recorder.state.entryOf? name = some e) ∧
    (∀ n reason, (n, reason) ∈ plan.skipped →
      x.recorder.state.entryOf? n.text = some ⟨n.text, .skipped, some reason⟩) ∧
    ∀ s, x.summary = some s →
      (∀ name, x.recorder.state.status? name ≠ some .running) ∧
      (∀ a ∈ plan.scheduled,
        (x.recorder.state.status? a.text = some .succeeded ↔ a.text ∈ s.succeeded) ∧
        (x.recorder.state.status? a.text = some .failed ↔ a.text ∈ s.failed.map Prod.fst) ∧
        (x.recorder.state.status? a.text = some .pending ↔ a.text ∈ s.pending) ∧
        (x.recorder.state.status? a.text = some .succeeded → plan.DoneWith hs a) ∧
        (x.recorder.state.status? a.text = some .failed ↔ ∃ i task message,
          plan.tasks[i]? = some task ∧ task.id.asset = a ∧
            x.schedule.progress.outcome? i = some (.failed message))) ∧
      (P.pending = [] → P.files.read? (store.runPath startedAt) = some x.recorder.state.text) := by
  have hc := hr.carries_of_going hstage
  obtain ⟨previous, -, hplan⟩ := hc.planned
  have ht := Execution.traced_of_run hplan hc.run
  refine ⟨fun h y hstep => hc.run.moves_step hplan hstep, fun later y hlater name e he hterm => ?_,
    fun n reason hn => hc.run.entryOf?_of_skipped hplan hn, fun s hsum =>
      ⟨hc.run.not_running_of_concluded hplan hsum, fun a ha => ?_, hc.read?_of_concluded hsum⟩⟩
  · induction hlater with
    | nil => exact he
    | next hlater hstep ih =>
      exact RunState.entryOf?_moves ((hc.run.append hlater).moves_step hplan hstep) ih hterm
  · have hstatus : ∀ status, x.recorder.state.status? a.text = some status ↔
        x.schedule.progress.endStatus a = status := fun status => by
      rw [hc.run.status?_of_concluded hplan hsum ha, Option.some.injEq]
    obtain ⟨hsucceeded, hfailed, hpending, -⟩ := hc.run.mem_summary_iff (a := a) hsum
    rw [and_iff_right ha] at hsucceeded hfailed hpending
    simp only [hstatus]
    exact ⟨hsucceeded.symm, hfailed.symm, hpending.symm, ht.doneWith_of_endStatus,
      ht.endStatus_eq_failed_iff⟩

/-- A run of the small pipeline that is cancelled while its first asset is under way, and saved. -/
theorem cancelled_process : ∃ P x s, P.stage = .going smallPlan x ∧ P.pending = [] ∧
    x.summary = some s ∧ x.recorder.state.status? orders.text = some .succeeded ∧
    x.recorder.state.status? report.text = some .pending ∧
    Process.Run smallPipeline plainConfig smallStore default smallTree
      [.concluded, .ended 0 .succeeded, .cancelled, .started 0] P :=
  ⟨_, _, _, rfl, rfl, rfl, rfl, rfl,
    .next (h := none) (.next (h := some _) (.next (h := none) (.next (h := some _)
      (.next (h := some _) (.next (h := some _) (.next (h := none)
        (.next (h := none) .nil (.plan prepare_smallPipeline)) (.save rfl))
        (.happen (.start rfl rfl rfl) (List.nil_append _).symm))
        (.happen (.cancel rfl) (List.nil_append _).symm))
        (.happen (.finish rfl rfl (List.mem_cons_self ..)) (List.singleton_append).symm))
        (.save rfl))
        (.happen (.conclude rfl rfl rfl) (List.singleton_append).symm))
        (.save rfl)⟩

/-- In this run the first asset is done and the second one is set back, on record, in the summary
and in the file alike. -/
theorem cancelled_after_orders : ∃ P x s,
    Process.Run smallPipeline plainConfig smallStore default smallTree
      [.concluded, .ended 0 .succeeded, .cancelled, .started 0] P ∧
    P.stage = .going smallPlan x ∧ x.summary = some s ∧
    x.recorder.state.status? orders.text = some .succeeded ∧ orders.text ∈ s.succeeded ∧
    smallPlan.DoneWith [.concluded, .ended 0 .succeeded, .cancelled, .started 0] orders ∧
    x.recorder.state.status? report.text = some .pending ∧ report.text ∈ s.pending ∧
    P.files.read? (smallStore.runPath default) = some x.recorder.state.text := by
  obtain ⟨P, x, s, hstage, hpending, hsum, horders, hreport, hr⟩ := cancelled_process
  obtain ⟨-, -, -, hend⟩ := life_cycle hr hstage
  obtain ⟨-, hassets, hfile⟩ := hend s hsum
  obtain ⟨hsucceeded, -, -, hdone, -⟩ := hassets orders (by decide)
  obtain ⟨-, -, hpend, -⟩ := hassets report (by decide)
  exact ⟨P, x, s, hr, hstage, hsum, horders, hsucceeded.mp horders, hdone horders, hreport,
    hpend.mp hreport, hfile hpending⟩

end Process

end AssetFlow
