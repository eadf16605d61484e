import AssetFlow.Proofs.Run.Execution
import AssetFlow.Proofs.Run.Record
import AssetFlow.Proofs.Run.Rerun

/-!
# What is saved of a run

Every state that is saved in the course of a run is honest: an asset with tasks is complete in it
only if all its tasks have ended well by then. Nothing is lost either, because an asset whose tasks
have all ended well is complete in the state that was saved last, and it stays so in whatever is
saved later.

## Main definitions

- `Progress.IsOpen`: an asset still has a task without an outcome
- `Progress.Honest`: an asset is complete in a state only if its tasks have ended well
- `Progress.Guarded`: what was saved is honest and up to date
- `RunPlan.DoneWith`: all tasks of an asset have ended well

## Main statements

- `Execution.Run.saved_honest`: what was saved of a run is honest and up to date
- `Execution.Run.doneWith_of_isComplete`: an asset that is complete in what was saved is done with
- `Execution.Run.isComplete_of_doneWith`: an asset that is done with is complete
- `Execution.Traced.extends_step`: what one happening adds to it
-/

namespace AssetFlow

namespace Progress

variable {p q : Progress} {i : Nat} {a : AssetName}

/-- Some task of the asset with a name has no outcome. -/
def IsOpen (p : Progress) (name : String) : Prop :=
  ∃ i a, p.asset? i = some a ∧ a.text = name ∧ p.outcome? i = none

/-- An asset that is still open was open before. -/
theorem Tallied.isOpen_of_advance (h : p.Tallied) (hpq : p.Advance q) {name : String}
    (hopen : q.IsOpen name) : p.IsOpen name := by
  obtain ⟨i, a, ha, rfl, hnone⟩ := hopen
  refine ⟨i, a, by rwa [asset?, ← tasks_advance hpq], rfl, ?_⟩
  cases ho : p.outcome? i with
  | none => rfl
  | some o =>
    rw [h.outcome?_advance hpq ho] at hnone
    cases hnone

/-- A move writes about open assets only. -/
theorem Move.extends_recorder (hm : p.Move q) : p.recorder.Extends p.IsOpen q.recorder := by
  cases hm with
  | @start i a ha hopen =>
    rw [recorder_start ha]
    exact Recorder.extends_record _ _ ⟨i, a, ha, rfl, hopen⟩
  | @finish i a o ha hopen =>
    rw [recorder_finish ha]
    split
    · exact Recorder.extends_record _ _ ⟨i, a, ha, rfl, hopen⟩
    · exact .refl _ _

/-- In the course of a run only the assets with open tasks get another status. -/
theorem Tallied.extends_recorder (h : p.Tallied) (hpq : p.Advance q) :
    p.recorder.Extends p.IsOpen q.recorder := by
  induction hpq with
  | refl => exact .refl _ _
  | tail hpq hm ih =>
    exact ih.trans (hm.extends_recorder.mono fun _ => h.isOpen_of_advance hpq)

/-- An asset with tasks remaining is open. -/
theorem Tallied.isOpen_of_remainingOf_pos (h : p.Tallied) (hpos : 0 < p.remainingOf a) :
    p.IsOpen a.text := by
  rw [h.remaining_eq] at hpos
  obtain ⟨i, ha, hnone⟩ := unfinishedOf_pos_iff.mp hpos
  exact ⟨i, a, ha, rfl, hnone⟩

/-- The last records are about open assets only. -/
theorem Tallied.extends_recordLast (h : p.Tallied) (r : Recorder) (assets : List AssetName) :
    r.Extends p.IsOpen (p.recordLast r assets) := by
  induction assets generalizing r with
  | nil => exact .refl _ _
  | cons a assets ih =>
    rw [recordLast, List.foldl_cons]
    refine Recorder.Extends.trans ?_ (ih _)
    cases hlast : p.lastStatus? a with
    | none => exact .refl _ _
    | some status =>
      refine Recorder.extends_record _ _ (h.isOpen_of_remainingOf_pos (Nat.pos_of_ne_zero ?_))
      intro hzero
      rw [lastStatus?, if_pos hzero] at hlast
      cases hlast

/-! ### Honest states -/

/-- An asset with tasks is complete in a state only if they have ended well. -/
def Honest (p : Progress) (s : RunState) : Prop :=
  ∀ i a, p.asset? i = some a → s.isComplete a.text = true → p.Succeeded i

/-- What was saved is honest, and so is what is on record; nothing that is settled is still to be
saved, and no asset with open tasks is settled. -/
structure Guarded (p : Progress) : Prop where
  honest : ∀ s ∈ p.recorder.state :: p.recorder.saved, p.Honest s
  upToDate : p.recorder.UpToDate
  unsettled : ∀ a, 0 < p.remainingOf a → ¬ p.recorder.state.Settled a.text

/-- A state that was honest stays so while the progress advances. -/
theorem Honest.advance {s : RunState} (hs : p.Honest s) (h : p.Tallied) (hpq : p.Advance q) :
    q.Honest s := by
  intro i a ha hcomplete
  rw [asset?, tasks_advance hpq] at ha
  exact h.outcome?_advance hpq (hs i a ha hcomplete)

/-- Noting a status is honest unless an asset is said to have succeeded that has not. -/
theorem honest_record {r : Recorder} {status : AssetStatus}
    (hr : ∀ s ∈ r.state :: r.saved, p.Honest s) (hstatus : status ≠ .skipped)
    (hgood : status = .succeeded → ∀ i, p.asset? i = some a → p.Succeeded i) :
    ∀ s ∈ (r.record a.text status).state :: (r.record a.text status).saved, p.Honest s := by
  have hstate : p.Honest (r.record a.text status).state := by
    intro i b hb hcomplete
    rw [Recorder.isComplete_record r hstatus] at hcomplete
    split at hcomplete
    · next heq =>
      rw [AssetName.eq_of_text_eq heq] at hb
      exact hgood (eq_of_beq hcomplete) i hb
    · exact hr _ (List.mem_cons_self ..) i b hb hcomplete
  intro s hs
  rcases List.mem_cons.mp hs with rfl | hs
  · exact hstate
  · rcases r.saved_record a.text status with hsaved | hsaved
    · exact hr s (List.mem_cons_of_mem _ (hsaved ▸ hs))
    · rcases List.mem_cons.mp (hsaved ▸ hs) with rfl | hs
      · exact hstate
      · exact hr s (List.mem_cons_of_mem _ hs)

/-- If an asset has no task left and no error, its tasks have ended well. -/
theorem Tallied.succeeded_of_finalStatus (h : p.Tallied) (ha : p.asset? i = some a)
    (hzero : p.remainingOf a = 0) (hfinal : p.finalStatus a = .succeeded) : p.Succeeded i := by
  have hfin : p.isFinished i = true := by
    rw [← Bool.not_eq_false, not_isFinished_iff]
    intro hopen
    have := h.remainingOf_pos ha hopen
    omega
  refine (isFinished_iff.mp hfin).resolve_right fun hfail => ?_
  rw [finalStatus, if_pos ((h.error_iff a).mpr ⟨i, ha, hfail⟩)] at hfinal
  cases hfinal

/-- The status of finished tasks is terminal. -/
theorem isTerminal_finalStatus (p : Progress) (a : AssetName) :
    (p.finalStatus a).isTerminal = true := by
  rw [finalStatus]
  split <;> rfl

/-- Tasks that were planned do not make an asset skipped. -/
theorem finalStatus_ne_skipped (p : Progress) (a : AssetName) : p.finalStatus a ≠ .skipped := by
  rw [finalStatus]
  split <;> simp

/-- A move of the progress keeps all that was saved honest. -/
theorem Guarded.move (hg : p.Guarded) (h : p.Tallied) (hm : p.Move q) : q.Guarded := by
  have hold : ∀ s ∈ p.recorder.state :: p.recorder.saved, q.Honest s := fun s hs =>
    (hg.honest s hs).advance h (.single hm)
  have hq := h.move hm
  cases hm with
  | @start i a ha hopen =>
    have hpos := h.remainingOf_pos ha hopen
    constructor
    · rw [recorder_start ha]
      -- a task that starts makes its asset neither complete nor settled
      exact honest_record hold (by simp) (by simp)
    · rw [recorder_start ha]
      exact hg.upToDate.record (.inr (hg.unsettled a hpos))
    · intro b hb
      rw [recorder_start ha, Recorder.settled_record]
      split
      · simp [AssetStatus.isTerminal]
      · exact hg.unsettled b (by rwa [remainingOf_start] at hb)
  | @finish i a o ha hopen =>
    have hunsettled : ∀ b ≠ a, 0 < (p.finish i o).remainingOf b →
        ¬ p.recorder.state.Settled b.text := fun b hne hb =>
      hg.unsettled b (by rwa [remainingOf_finish ha, if_neg hne] at hb)
    by_cases hzero : (p.finish i o).remainingOf a = 0
    -- the last task of the asset: its final status is noted and saved
    · have hrecorder : (p.finish i o).recorder =
          p.recorder.record a.text ((p.finish i o).finalStatus a) := by
        rw [recorder_finish ha, if_pos hzero]
        rfl
      have hterminal := (p.finish i o).isTerminal_finalStatus a
      constructor
      · rw [hrecorder]
        exact honest_record hold ((p.finish i o).finalStatus_ne_skipped a) fun hgood j hj =>
          hq.succeeded_of_finalStatus hj hzero hgood
      · rw [hrecorder]
        exact hg.upToDate.record (.inl hterminal)
      · intro b hb
        have hne : b ≠ a := by
          rintro rfl
          omega
        rw [hrecorder, Recorder.settled_record,
          if_neg fun heq => hne (AssetName.eq_of_text_eq heq)]
        exact hunsettled b hne hb
    -- tasks of the asset are left, so that nothing is noted
    · have hrecorder : (p.finish i o).recorder = p.recorder := by
        rw [recorder_finish ha, if_neg hzero]
      refine ⟨hrecorder ▸ hold, hrecorder ▸ hg.upToDate, fun b hb => ?_⟩
      rw [hrecorder]
      rcases eq_or_ne b a with rfl | hne
      · exact hg.unsettled b (h.remainingOf_pos ha hopen)
      · exact hunsettled b hne hb

/-- Advances of the progress keep all that was saved honest. -/
theorem Guarded.advance (hg : p.Guarded) (h : p.Tallied) (hpq : p.Advance q) : q.Guarded := by
  induction hpq with
  | refl => exact hg
  | tail hpq hm ih => exact ih.move (h.advance hpq) hm

/-- What is saved when the run is summed up is honest as well. -/
theorem Guarded.honest_recordLast (hg : p.Guarded) (assets : List AssetName) :
    ∀ s ∈ (p.recordLast p.recorder assets).state :: (p.recordLast p.recorder assets).saved,
      p.Honest s := by
  have hfold : ∀ r : Recorder, (∀ s ∈ r.state :: r.saved, p.Honest s) →
      ∀ s ∈ (p.recordLast r assets).state :: (p.recordLast r assets).saved, p.Honest s := by
    induction assets with
    | nil => exact fun _ hr => hr
    | cons a assets ih =>
      intro r hr
      rw [recordLast, List.foldl_cons]
      refine ih _ ?_
      cases hlast : p.lastStatus? a with
      | none => exact hr
      | some status =>
        -- no asset is said to have succeeded at this point
        have hbad : status = .failed ∨ status = .pending := by
          rw [lastStatus?] at hlast
          split at hlast
          · cases hlast
          · split at hlast <;> simp_all
        refine honest_record hr ?_ ?_ <;> rcases hbad with rfl | rfl <;> simp
  exact hfold p.recorder hg.honest

end Progress

/-- All tasks of an asset have ended well. -/
def RunPlan.DoneWith (plan : RunPlan) (hs : List Happening) (a : AssetName) : Prop :=
  ∀ (i : Nat) (t : PlannedTask), plan.tasks[i]? = some t → t.id.asset = a → .ended i .succeeded ∈ hs

/-- A recorder that a run can begin with: it is saved, and no asset with tasks is settled in any of
its states. -/
structure Recorder.FreshFor (plan : RunPlan) (r : Recorder) : Prop where
  upToDate : r.UpToDate
  unsettled : ∀ t ∈ plan.tasks, ∀ s ∈ r.state :: r.saved, ¬ s.Settled t.id.asset.text

/-- The recorder that a run begins with is such a recorder. -/
theorem Run.freshFor_initialRecorder {p : Pipeline} {c : RunConfig} {previous : Option RunState}
    {plan : RunPlan} (hplan : RunPlan.build p c previous = .ok plan) :
    (initialRecorder p c plan).FreshFor plan := by
  obtain ⟨g, order, chosen, toRun, hb⟩ := RunPlan.build_ok hplan
  refine ⟨Recorder.upToDate_persist _, fun t ht s hs => ?_⟩
  obtain ⟨i, hi⟩ := List.mem_iff_getElem?.mp ht
  have hreason := hb.reason?_eq_none (RunPlan.mem_scheduled.mpr ⟨i, t, hi, rfl⟩)
  have hstate : s = initialState p c plan := by
    simpa [initialRecorder, Recorder.persist] using hs
  exact hstate ▸ not_settled_initialState hreason

namespace Execution

variable {p : Pipeline} {c : RunConfig} {previous : Option RunState} {plan : RunPlan}
  {workers : Nat} {r : Recorder} {hs : List Happening} {h : Happening} {x y : Execution}

/-- A fresh recorder has saved nothing dishonest. -/
theorem guarded_begin (hr : r.FreshFor plan) : (Progress.begin plan.tasks r).Guarded := by
  have hplanned : ∀ i a, (Progress.begin plan.tasks r).asset? i = some a →
      ∀ s ∈ r.state :: r.saved, ¬ s.Settled a.text := by
    intro i a ha
    obtain ⟨t, ht, rfl⟩ := Option.map_eq_some_iff.mp ha
    exact hr.unsettled t (List.mem_of_getElem? ht)
  refine ⟨fun s hs i a ha hcomplete => ?_, hr.upToDate, fun a ha => ?_⟩
  · exact absurd (RunState.settled_of_isComplete hcomplete) (hplanned i a ha s hs)
  · obtain ⟨i, b, hb, heq, -⟩ :=
      (Progress.tallied_begin plan.tasks r).isOpen_of_remainingOf_pos ha
    exact heq ▸ hplanned i b hb _ (List.mem_cons_self ..)

/-- **What is saved of a run is honest and up to date.** -/
theorem Run.saved_honest (hplan : RunPlan.build p c previous = .ok plan) (hfresh : r.FreshFor plan)
    (hr : Run plan workers (begin p plan r) hs x) :
    (∀ s ∈ x.recorder.saved, x.schedule.progress.Honest s) ∧ x.recorder.UpToDate := by
  have hguarded : ∀ {hs x}, Run plan workers (begin p plan r) hs x → x.summary = none →
      x.schedule.progress.Guarded := fun hr hnone =>
    (guarded_begin hfresh).advance (Progress.tallied_begin _ _) (hr.advance hplan hnone)
  cases hsum : x.summary with
  | none =>
    have hg := hguarded hr hsum
    exact ⟨fun s hs => hg.honest s (List.mem_cons_of_mem _ hs), hg.upToDate⟩
  | some summary =>
    obtain ⟨before, y, -, hy, hnone, -, -, rfl⟩ := hr.concluded hsum
    rw [conclude_eq, Progress.summary_eq]
    exact ⟨(hguarded hy hnone).honest_recordLast plan.scheduled, Recorder.upToDate_persist _⟩

/-- What one happening changes on record, and what is saved in its course. -/
theorem Traced.extends_step (ht : x.Traced plan workers hs) (hstep : Step plan workers x h y) :
    x.recorder.Extends x.schedule.progress.IsOpen y.recorder := by
  cases hsum : y.summary with
  | none => exact ht.valid.tallied.extends_recorder (ht.advance_step hstep hsum)
  | some s =>
    obtain ⟨-, -, -, rfl⟩ := hstep.concludes hsum
    rw [conclude_eq, Progress.summary_eq]
    exact (ht.valid.tallied.extends_recordLast _ _).persist

/-- In the whole of a run, only assets with tasks get another status. -/
theorem Run.extends_recorder (hplan : RunPlan.build p c previous = .ok plan)
    (hr : Run plan workers (begin p plan r) hs x) :
    r.Extends (Progress.begin plan.tasks r).IsOpen x.recorder := by
  induction hr with
  | nil => exact .refl _ _
  | next hr hstep ih =>
    refine ih.trans (((traced_of_run hplan hr).extends_step hstep).mono fun _ => ?_)
    exact (Progress.tallied_begin _ _).isOpen_of_advance (hr.advance hplan hstep.summary_none)

/-- What is saved says the same of the assets without tasks as the state that the run begins
with. -/
theorem Run.saved_elsewhere (hplan : RunPlan.build p c previous = .ok plan)
    (hr : Run plan workers (begin p plan (Run.initialRecorder p c plan)) hs x) {s : RunState}
    (hs : s ∈ x.recorder.saved) : s.fingerprint = p.fingerprint ∧ ∀ a ∉ plan.scheduled,
      s.entryOf? a.text = (Run.initialState p c plan).entryOf? a.text := by
  obtain ⟨g, order, chosen, toRun, hb⟩ := RunPlan.build_ok hplan
  have hfp : (Run.initialState p c plan).fingerprint = p.fingerprint := by
    rw [Run.initialState, RunState.fingerprint_foldl_skip]
    exact hb.fingerprint_eq
  obtain ⟨new, hsaved, hnew⟩ := hr.extends_recorder hplan
  rw [hsaved, List.mem_append] at hs
  rcases hs with hs | hs
  · obtain ⟨hsame, hentry⟩ := hnew s (List.mem_cons_of_mem _ hs)
    refine ⟨hsame.trans hfp, fun a ha => hentry a.text ?_⟩
    rintro ⟨i, b, hb, heq, -⟩
    obtain ⟨t, ht, rfl⟩ := Option.map_eq_some_iff.mp hb
    exact ha (AssetName.eq_of_text_eq heq ▸ RunPlan.mem_scheduled.mpr ⟨i, t, ht, rfl⟩)
  · have hstate : s = Run.initialState p c plan := by
      simpa [Run.initialRecorder, Recorder.persist] using hs
    rw [hstate]
    exact ⟨hfp, fun _ _ => rfl⟩

/-- The statuses on record are right throughout a run, also when it is over. -/
theorem Run.noted (hplan : RunPlan.build p c previous = .ok plan)
    (hr : Run plan workers (begin p plan r) hs x) : x.schedule.progress.Noted r.state := by
  have hnoted : ∀ {hs x}, Run plan workers (begin p plan r) hs x → x.summary = none →
      x.schedule.progress.Noted r.state := fun hr hnone =>
    (Progress.noted_begin _ _).advance (Progress.tallied_begin _ _) (hr.advance hplan hnone)
  cases hsum : x.summary with
  | none => exact hnoted hr hsum
  | some s =>
    obtain ⟨before, y, -, hy, hnone, htakes, hidle, rfl⟩ := hr.concluded hsum
    have ht := traced_of_run hplan hy
    have hn := hnoted hy hnone
    obtain ⟨new, -, hnew⟩ := ht.extends_step (.conclude hnone htakes hidle)
    have hkept := (hnew _ (List.mem_cons_self ..)).2
    refine ⟨fun name hname => ?_, fun i a ha hzero => ?_⟩
    · refine (hkept name ?_).trans (hn.elsewhere name hname)
      rintro ⟨i, a, ha, heq, -⟩
      exact hname ⟨i, a, ha, heq⟩
    · have hclosed : ¬ y.schedule.progress.IsOpen a.text := by
        rintro ⟨j, b, hb, heq, hopen⟩
        have hpos := ht.valid.tallied.remainingOf_pos hb hopen
        rw [AssetName.eq_of_text_eq heq] at hpos
        exact absurd hzero (Nat.ne_of_gt hpos)
      exact (congrArg (Option.map AssetState.status) (hkept _ hclosed)).trans
        (hn.status_eq i a ha hzero)

/-- An asset with tasks is complete in what was saved only if they have ended well. -/
theorem Run.doneWith_of_isComplete (hplan : RunPlan.build p c previous = .ok plan)
    (hfresh : r.FreshFor plan) (hr : Run plan workers (begin p plan r) hs x) {s : RunState}
    (hsaved : s ∈ x.recorder.saved) {a : AssetName} (hcomplete : s.isComplete a.text = true) :
    plan.DoneWith hs a := by
  intro i t htask hasset
  have ht := traced_of_run hplan hr
  exact ht.ended_of_succeeded i ((hr.saved_honest hplan hfresh).1 s hsaved i a
    (hasset ▸ ht.asset?_eq htask) hcomplete)

/-- An asset whose tasks have all ended well is complete on record, and closed. -/
theorem Run.isComplete_of_doneWith (hplan : RunPlan.build p c previous = .ok plan)
    (hr : Run plan workers (begin p plan r) hs x) {a : AssetName} (ha : a ∈ plan.scheduled)
    (hall : plan.DoneWith hs a) :
    x.recorder.state.isComplete a.text = true ∧ ¬ x.schedule.progress.IsOpen a.text := by
  have ht := traced_of_run hplan hr
  have hgood : ∀ i b, x.schedule.progress.asset? i = some b → b.text = a.text →
      x.schedule.progress.Succeeded i := by
    intro i b hb heq
    obtain ⟨t, htask, rfl⟩ := Option.map_eq_some_iff.mp hb
    rw [ht.tasks_eq] at htask
    exact ht.outcome_of_ended i _ (hall i t htask (AssetName.eq_of_text_eq heq))
  have hclosed : ¬ x.schedule.progress.IsOpen a.text := by
    rintro ⟨i, b, hb, heq, hnone⟩
    have := hgood i b hb heq
    rw [Progress.Succeeded, hnone] at this
    cases this
  have hzero : x.schedule.progress.remainingOf a = 0 := by
    by_contra hne
    exact hclosed (ht.valid.tallied.isOpen_of_remainingOf_pos (Nat.pos_of_ne_zero hne))
  have herr : x.schedule.progress.error? a = none := by
    rw [← Option.not_isSome_iff_eq_none, ht.valid.tallied.error_iff]
    rintro ⟨i, hi, hfail⟩
    exact hfail.not_succeeded (hgood i a hi rfl)
  obtain ⟨i, t, htask, rfl⟩ := RunPlan.mem_scheduled.mp ha
  have hstatus := (hr.noted hplan).status_eq i _ (ht.asset?_eq htask) hzero
  rw [Progress.finalStatus, herr] at hstatus
  exact ⟨RunState.isComplete_eq_of_status? hstatus (by simp), hclosed⟩

end Execution

end AssetFlow
