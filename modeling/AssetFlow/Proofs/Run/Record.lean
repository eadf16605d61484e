import AssetFlow.Proofs.Graph.Ancestry
import AssetFlow.Proofs.Run.Progress
import AssetFlow.Proofs.Run.State

/-!
# What a run leaves on record

The last task of an asset settles what is recorded of the asset, and nothing is recorded of the
assets without tasks. When a run is summed up, the assets that still have tasks get a status of
their own.

## Main definitions

- `Progress.Noted`: the statuses on record are right
- `Progress.lastStatus?`: the status that an asset gets when the run is summed up

## Main statements

- `Progress.noted_begin`, `Progress.Noted.advance`: the statuses on record are right throughout
- `Progress.summary_eq`: what a run amounts to
-/

namespace AssetFlow.Progress

variable {p q : Progress} {s₀ : RunState} {i : Nat} {a : AssetName}

/-- Some task works on the asset with a name. -/
def Plans (p : Progress) (name : String) : Prop :=
  ∃ i a, p.asset? i = some a ∧ a.text = name

/-- The status of an asset whose tasks have all ended. -/
def finalStatus (p : Progress) (a : AssetName) : AssetStatus :=
  if (p.error? a).isSome then .failed else .succeeded

/-- The statuses on record are right: those of assets whose tasks have all ended, and those of
assets without tasks, which are as they were in the beginning. -/
structure Noted (s₀ : RunState) (p : Progress) : Prop where
  elsewhere : ∀ name, ¬ p.Plans name → p.recorder.state.entryOf? name = s₀.entryOf? name
  status_eq : ∀ i a, p.asset? i = some a → p.remainingOf a = 0 →
    p.recorder.state.status? a.text = some (p.finalStatus a)

/-- An asset with an unfinished task has tasks remaining. -/
theorem Tallied.remainingOf_pos (h : p.Tallied) (ha : p.asset? i = some a)
    (hopen : p.outcome? i = none) : 0 < p.remainingOf a := by
  rw [h.remaining_eq]
  exact unfinishedOf_pos_iff.mpr ⟨i, ha, hopen⟩

/-- When all tasks are finished, no asset has tasks remaining. -/
theorem Tallied.remainingOf_eq_zero (h : p.Tallied)
    (hall : ∀ i < p.tasks.length, p.isFinished i = true) (a : AssetName) :
    p.remainingOf a = 0 := by
  rw [h.remaining_eq]
  by_contra hne
  obtain ⟨i, ha, hopen⟩ := unfinishedOf_pos_iff.mp (Nat.pos_of_ne_zero hne)
  rw [← not_isFinished_iff, hall i (asset?_lt ha)] at hopen
  cases hopen

/-- At the start of a run, the record is the one that the run starts from. -/
theorem noted_begin (tasks : List PlannedTask) (r : Recorder) :
    (begin tasks r).Noted r.state where
  elsewhere _ _ := rfl
  status_eq _ _ ha hzero :=
    absurd hzero (Nat.ne_of_gt ((tallied_begin tasks r).remainingOf_pos ha (outcome?_begin ..)))

theorem Plans.congr {name : String} (htasks : q.tasks = p.tasks) : q.Plans name ↔ p.Plans name := by
  simp only [Plans, asset?, htasks]

/-- A move of the progress keeps the record in step with it. -/
theorem Noted.move (hn : p.Noted s₀) (h : p.Tallied) (hm : p.Move q) : q.Noted s₀ := by
  have hplans : ∀ name, q.Plans name ↔ p.Plans name := fun _ => Plans.congr hm.tasks_eq
  cases hm with
  | @start i a ha hopen =>
    have hpos := h.remainingOf_pos ha hopen
    constructor
    · intro name hname
      rw [hplans] at hname
      have hne : name ≠ a.text := fun heq => hname ⟨i, a, ha, heq.symm⟩
      rw [recorder_start ha, Recorder.entryOf?_record_of_ne _ _ hne, hn.elsewhere name hname]
    · intro j b hb hzero
      rw [asset?_start] at hb
      rw [remainingOf_start] at hzero
      -- the asset of the task that starts still has that task
      have hne : b.text ≠ a.text := by
        intro heq
        rw [AssetName.eq_of_text_eq heq] at hzero
        omega
      have herr : (p.start i).finalStatus b = p.finalStatus b := by simp only [finalStatus, error?_start]
      rw [recorder_start ha, Recorder.status?_record, if_neg hne, herr]
      exact hn.status_eq j b hb hzero
  | @finish i a o ha hopen =>
    constructor
    · intro name hname
      rw [hplans] at hname
      have hne : name ≠ a.text := fun heq => hname ⟨i, a, ha, heq.symm⟩
      rw [recorder_finish ha]
      split
      · rw [Recorder.entryOf?_record_of_ne _ _ hne, hn.elsewhere name hname]
      · exact hn.elsewhere name hname
    · intro j b hb hzero
      rw [asset?_finish] at hb
      rcases eq_or_ne b a with rfl | hab
      -- this was the last task of the asset, whose final status is noted now
      · rw [recorder_finish ha, if_pos hzero, Recorder.status?_record, if_pos rfl]
        rfl
      · have hne : b.text ≠ a.text := fun heq => hab (AssetName.eq_of_text_eq heq)
        -- no other asset is touched
        have hold : p.recorder.state.status? b.text = some (p.finalStatus b) :=
          hn.status_eq j b hb (by rwa [remainingOf_finish ha, if_neg hab] at hzero)
        have herr : (p.finish i o).finalStatus b = p.finalStatus b := by
          simp only [finalStatus, error?_finish ha]
          cases o <;> simp [hab]
        rw [herr, recorder_finish ha]
        split
        · rwa [Recorder.status?_record, if_neg hne]
        · exact hold

/-- Advances of the progress keep the record in step with it. -/
theorem Noted.advance (hn : p.Noted s₀) (h : p.Tallied) (hpq : p.Advance q) : q.Noted s₀ := by
  induction hpq with
  | refl => exact hn
  | tail hpq hm ih => exact ih.move (h.advance hpq) hm

/-! ### Summing up -/

/-- The status that an asset gets when the run is summed up, if it still has tasks. -/
def lastStatus? (p : Progress) (a : AssetName) : Option AssetStatus :=
  if p.remainingOf a = 0 then none
  else if (p.error? a).isSome then some .failed
  else some .pending

/-- The record with the statuses that some assets get when the run is summed up. -/
def recordLast (p : Progress) (r : Recorder) (assets : List AssetName) : Recorder :=
  assets.foldl (fun r a => match p.lastStatus? a with
    | some status => r.record a.text status
    | none => r) r

/-- The summary lists the assets of every kind in the order in which they are concluded. -/
theorem foldl_conclude (assets : List AssetName) (s : RunSummary) (r : Recorder) :
    assets.foldl p.conclude (s, r) =
      ({ s with
          succeeded := s.succeeded ++ (assets.filter fun a =>
            (p.error? a).isNone && p.remainingOf a == 0).map AssetName.text
          failed := s.failed ++ assets.filterMap fun a => (p.error? a).map (a.text, ·)
          pending := s.pending ++ (assets.filter fun a =>
            (p.error? a).isNone && p.remainingOf a != 0).map AssetName.text },
        p.recordLast r assets) := by
  induction assets generalizing s r with
  | nil => simp [recordLast]
  | cons a assets ih =>
    simp only [List.foldl_cons, recordLast]
    -- an asset goes to one of three rows, by whether it has an error and tasks left
    rcases hzero : p.remainingOf a with _ | n
    · cases he : p.error? a with
      | none => simp [conclude, he, hzero, ih, recordLast, lastStatus?]
      | some e => simp [conclude, he, hzero, ih, recordLast, lastStatus?]
    · cases he : p.error? a with
      | none => simp [conclude, he, hzero, ih, recordLast, lastStatus?]
      | some e => simp [conclude, he, hzero, ih, recordLast, lastStatus?]

/-- **What a run amounts to.** -/
theorem summary_eq (p : Progress) (plan : RunPlan) (cancelled : Bool) :
    p.summary plan cancelled =
      ({ succeeded := (plan.scheduled.filter fun a =>
            (p.error? a).isNone && p.remainingOf a == 0).map AssetName.text
         failed := plan.scheduled.filterMap fun a => (p.error? a).map (a.text, ·)
         skipped := plan.skipped.map fun (n, r) => (n.text, r)
         pending := (plan.scheduled.filter fun a =>
            (p.error? a).isNone && p.remainingOf a != 0).map AssetName.text
         cancelled := cancelled && p.hasUnfinished },
        (p.recordLast p.recorder plan.scheduled).persist) := by
  simp only [summary, foldl_conclude]
  rfl

end AssetFlow.Progress
