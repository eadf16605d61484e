import AssetFlow.Proofs.Run.Saved

/-!
# The status of an asset

An asset is pending, is running once one of its tasks has started, and in the end has succeeded or
failed. It may fail without having been running, because something that it is read from failed, and
it may be given up. As long as an asset has a task without an outcome it is pending or running, so
that what is noted when a task starts and when it ends is what the life cycle allows.

## Main definitions

- `AssetStatus.Next`, `RunState.Moves`: a change of one status that the life cycle allows
- `Progress.Phased`: an asset with a task without an outcome is pending or running
- `Progress.endStatus`: the status of an asset when the run is over

## Main statements

- `RunState.entryOf?_moves`: a status that is final stays
- `Progress.Phased.moves_finish`, `Progress.Phased.moves_advance`, `Progress.moves_recordLast`: what
  is noted in a run moves statuses as the life cycle allows
-/

namespace AssetFlow

open Relation (ReflTransGen)

/-- A change of the status of an asset that its life cycle allows. Whether an asset that is running
may be given up depends. -/
inductive AssetStatus.Next (givesUp : Prop) : AssetStatus → AssetStatus → Prop
  | start : Next givesUp .pending .running
  | succeed : Next givesUp .running .succeeded
  | fail : Next givesUp .running .failed
  /-- Something that the asset is read from has failed. -/
  | failEarly : Next givesUp .pending .failed
  /-- The run is cancelled and does not come to the asset any more. -/
  | giveUp : givesUp → Next givesUp .running .pending

/-- One asset gets another status, as its life cycle allows. -/
def RunState.Moves (givesUp : Prop) (s s' : RunState) : Prop :=
  ∃ name old new, s.status? name = some old ∧ old.Next givesUp new ∧ s' = s.record name new

variable {givesUp : Prop}

/-- No status follows a terminal one. -/
theorem AssetStatus.Next.not_terminal {old new : AssetStatus} (h : old.Next givesUp new) :
    old.isTerminal = false := by
  cases h <;> rfl

/-- A status that is final stays as it is, with the reason for it. -/
theorem RunState.entryOf?_moves {s s' : RunState} {name : String} {e : AssetState}
    (h : ReflTransGen (Moves givesUp) s s') (he : s.entryOf? name = some e)
    (hterm : e.status.isTerminal = true) : s'.entryOf? name = some e := by
  induction h with
  | refl => exact he
  | tail _ hmove ih =>
    obtain ⟨other, old, new, hold, hnext, rfl⟩ := hmove
    rw [entryOf?_record, if_neg, ih]
    -- the asset that gets another status had one that is not final
    rintro rfl
    rw [status?, ih] at hold
    obtain rfl := Option.some.inj hold
    rw [hnext.not_terminal] at hterm
    cases hterm

/-- Noting a status is a move, unless the asset has it already. -/
theorem Recorder.moves_record (r : Recorder) {name : String} {old new : AssetStatus}
    (hold : r.state.status? name = some old) (hnext : old = new ∨ old.Next givesUp new) :
    ReflTransGen (RunState.Moves givesUp) r.state (r.record name new).state := by
  rcases eq_or_ne old new with rfl | hne
  · have hsame : r.record name old = r := by simp [record, hold]
    rw [hsame]
  · have hstate : (r.record name new).state = r.state.record name new := by
      rw [record, if_neg (by simpa [hold] using hne)]
      split <;> rfl
    rw [hstate]
    exact .single ⟨name, old, new, hold, hnext.resolve_left hne, rfl⟩

namespace Progress

variable {p q : Progress} {i : Nat} {a : AssetName} {o : Outcome} {name : String}

/-- Every asset with a task without an outcome is pending or running. -/
def Phased (p : Progress) : Prop :=
  ∀ name, p.IsOpen name → p.recorder.state.status? name = some .pending ∨
    p.recorder.state.status? name = some .running

/-- The record of an asset with a task without an outcome changes only by the start of one of its
tasks. -/
theorem Tallied.status?_finish (h : p.Tallied) (ha : p.asset? i = some a)
    (hopen : p.outcome? i = none) (hname : (p.finish i o).IsOpen name) :
    (p.finish i o).recorder.state.status? name = p.recorder.state.status? name := by
  rw [recorder_finish ha]
  split
  · next hzero =>
    rw [Recorder.status?_record, if_neg]
    rintro rfl
    -- the asset would still have a task
    obtain ⟨j, b, hb, heq, hnone⟩ := hname
    have hpos := (h.move (.finish o ha hopen)).remainingOf_pos hb hnone
    rw [AssetName.eq_of_text_eq heq, hzero] at hpos
    cases hpos
  · rfl

/-- Starting a task sets its asset to running and leaves the others alone. -/
theorem status?_start (ha : p.asset? i = some a) :
    (p.start i).recorder.state.status? name =
      if name = a.text then some .running else p.recorder.state.status? name := by
  rw [recorder_start ha, Recorder.status?_record]

/-- Advances of the progress keep the record in phase. -/
theorem Phased.advance (hp : p.Phased) (h : p.Tallied) (hpq : p.Advance q) : q.Phased := by
  induction hpq with
  | refl => exact hp
  | tail hpq hm ih =>
    have h' := h.advance hpq
    intro name hname
    have hbefore := ih name (h'.isOpen_of_advance (.single hm) hname)
    cases hm with
    | start ha hopen =>
      rw [status?_start ha]
      split
      · exact .inr rfl
      · exact hbefore
    | finish o ha hopen => rwa [h'.status?_finish ha hopen hname]

/-- An asset that is running stays so as long as it has a task without an outcome. -/
theorem Tallied.status?_running_advance (h : p.Tallied) (hpq : p.Advance q) (hname : q.IsOpen name)
    (hrunning : p.recorder.state.status? name = some .running) :
    q.recorder.state.status? name = some .running := by
  induction hpq with
  | refl => exact hrunning
  | tail hpq hm ih =>
    have h' := h.advance hpq
    have hbefore := ih (h'.isOpen_of_advance (.single hm) hname)
    cases hm with
    | start ha hopen =>
      rw [status?_start ha]
      split
      · rfl
      · exact hbefore
    | finish o ha hopen => rwa [h'.status?_finish ha hopen hname]

/-! ### Moves of the tasks -/

/-- Starting a task moves its asset as the life cycle allows. -/
theorem Phased.moves_start (hp : p.Phased) (ha : p.asset? i = some a) (hopen : p.outcome? i = none) :
    ReflTransGen (RunState.Moves givesUp) p.recorder.state (p.start i).recorder.state := by
  rw [recorder_start ha]
  rcases hp a.text ⟨i, a, ha, rfl, hopen⟩ with hold | hold
  · exact p.recorder.moves_record hold (.inr .start)
  · exact p.recorder.moves_record hold (.inl rfl)

/-- The outcome of a task is noted as the life cycle allows, if a task that ends well is one of an
asset that is running. -/
theorem Phased.moves_finish (hp : p.Phased) (ha : p.asset? i = some a) (hopen : p.outcome? i = none)
    (hrunning : o = .succeeded → p.recorder.state.status? a.text = some .running) :
    ReflTransGen (RunState.Moves givesUp) p.recorder.state (p.finish i o).recorder.state := by
  rw [recorder_finish ha]
  split
  · cases o with
    | succeeded =>
      refine p.recorder.moves_record (hrunning rfl) (.inr ?_)
      split
      · exact .fail
      · exact .succeed
    | failed message =>
      have herr : ((p.finish i (.failed message)).error? a).isSome = true := by
        simp [error?_finish ha]
      rw [if_pos herr]
      rcases hp a.text ⟨i, a, ha, rfl, hopen⟩ with hold | hold
      · exact p.recorder.moves_record hold (.inr .failEarly)
      · exact p.recorder.moves_record hold (.inr .fail)
  · exact .refl

/-- If no task ends well on the way, then all is noted as the life cycle allows. -/
theorem Phased.moves_advance (hp : p.Phased) (h : p.Tallied) (hpq : p.Advance q)
    (hnone : ∀ j, q.Succeeded j → p.Succeeded j) :
    ReflTransGen (RunState.Moves givesUp) p.recorder.state q.recorder.state := by
  induction hpq with
  | refl => exact .refl
  | @tail q' q hpq hm ih =>
    have h' := h.advance hpq
    refine (ih fun j hj => hnone j (h'.outcome?_advance (.single hm) hj)).trans ?_
    cases hm with
    | start ha hopen => exact (hp.advance h hpq).moves_start ha hopen
    | @finish i a o ha hopen =>
      refine (hp.advance h hpq).moves_finish ha hopen ?_
      -- a task that ended well here would have had its outcome from the beginning
      rintro rfl
      have hbefore := hnone i (by rw [Succeeded, outcome?_finish h'.length_eq ha, if_pos rfl])
      rw [h.outcome?_advance hpq hbefore] at hopen
      cases hopen

/-! ### Summing up -/

/-- Only assets with tasks remaining get a last status, failed or pending. -/
theorem lastStatus?_eq_some {status : AssetStatus} (hlast : p.lastStatus? a = some status) :
    0 < p.remainingOf a ∧ (status = .failed ∧ (p.error? a).isSome = true ∨
      status = .pending ∧ (p.error? a).isSome = false) := by
  rw [lastStatus?] at hlast
  split at hlast
  · cases hlast
  · next hpos =>
    refine ⟨Nat.pos_of_ne_zero hpos, ?_⟩
    split at hlast
    · next herr => exact .inl ⟨(Option.some.inj hlast).symm, herr⟩
    · next herr => exact .inr ⟨(Option.some.inj hlast).symm, Bool.not_eq_true _ ▸ herr⟩

/-- An asset that still has tasks gets its last status when the run is summed up. -/
theorem status?_recordLast {r : Recorder} {assets : List AssetName} {status : AssetStatus}
    (hlast : p.lastStatus? a = some status)
    (ha : a ∈ assets ∨ r.state.status? a.text = some status) :
    (p.recordLast r assets).state.status? a.text = some status := by
  induction assets generalizing r with
  | nil => exact ha.resolve_left List.not_mem_nil
  | cons b assets ih =>
    rw [recordLast, List.foldl_cons]
    refine ih ?_
    rcases eq_or_ne b a with rfl | hne
    · refine .inr ?_
      simp only [hlast, Recorder.status?_record, if_pos]
    · have htext : a.text ≠ b.text := fun heq => hne (AssetName.eq_of_text_eq heq).symm
      refine ha.imp (fun hmem => (List.mem_cons.mp hmem).resolve_left hne.symm) fun hr => ?_
      split
      · rwa [Recorder.status?_record, if_neg htext]
      · exact hr

/-- The last records move every asset as the life cycle allows. -/
theorem moves_recordLast {r : Recorder} {assets : List AssetName}
    (hgiveUp : ∀ a, p.lastStatus? a = some .pending → givesUp)
    (hr : ∀ a status, p.lastStatus? a = some status → ∃ old, r.state.status? a.text = some old ∧
      (old = status ∨ old = .pending ∨ old = .running)) :
    ReflTransGen (RunState.Moves givesUp) r.state (p.recordLast r assets).state := by
  induction assets generalizing r with
  | nil => exact .refl
  | cons a assets ih =>
    rw [recordLast, List.foldl_cons]
    cases hlast : p.lastStatus? a with
    | none => exact ih hr
    | some status =>
      obtain ⟨old, hold, hor⟩ := hr a status hlast
      have hnext : old = status ∨ old.Next givesUp status := by
        rcases (lastStatus?_eq_some hlast).2 with ⟨rfl, -⟩ | ⟨rfl, -⟩
        · rcases hor with rfl | rfl | rfl
          · exact .inl rfl
          · exact .inr .failEarly
          · exact .inr .fail
        · rcases hor with rfl | rfl | rfl
          · exact .inl rfl
          · exact .inl rfl
          · exact .inr (.giveUp (hgiveUp a hlast))
      refine (r.moves_record hold hnext).trans (ih fun b status' hlast' => ?_)
      rw [Recorder.status?_record]
      split
      · next heq =>
        rw [AssetName.eq_of_text_eq heq, hlast] at hlast'
        exact ⟨status, rfl, .inl (Option.some.inj hlast')⟩
      · exact hr b status' hlast'

/-- The status of an asset with tasks when the run is over. -/
def endStatus (p : Progress) (a : AssetName) : AssetStatus :=
  if (p.error? a).isSome then .failed
  else if p.remainingOf a = 0 then .succeeded
  else .pending

/-- An asset that gets a last status ends with it. -/
theorem endStatus_eq_of_lastStatus? {status : AssetStatus} (hlast : p.lastStatus? a = some status) :
    p.endStatus a = status := by
  obtain ⟨hpos, ⟨rfl, herr⟩ | ⟨rfl, herr⟩⟩ := lastStatus?_eq_some hlast
  · rw [endStatus, if_pos herr]
  · rw [endStatus, herr, if_neg Bool.false_ne_true, if_neg (Nat.ne_of_gt hpos)]

/-- An asset with no tasks remaining ends with the status of its tasks. -/
theorem endStatus_eq_finalStatus (hzero : p.remainingOf a = 0) : p.endStatus a = p.finalStatus a := by
  rw [endStatus, finalStatus, if_pos hzero]

/-- No asset ends as running. -/
theorem endStatus_ne_running : p.endStatus a ≠ .running := by
  rw [endStatus]
  repeat' split
  all_goals simp

/-- An asset ends as failed exactly if it has an error. -/
theorem endStatus_eq_failed_iff : p.endStatus a = .failed ↔ (p.error? a).isSome = true := by
  rw [endStatus]
  split
  · next herr => simp [herr]
  · next herr => split <;> simp [herr]

/-- An asset ends as succeeded exactly if it has no error and all its tasks are finished. -/
theorem endStatus_eq_succeeded_iff :
    p.endStatus a = .succeeded ↔ p.error? a = none ∧ p.remainingOf a = 0 := by
  rw [endStatus, ← Option.not_isSome_iff_eq_none]
  split
  · next herr => simp [herr]
  · next herr => split <;> simp_all

/-- An asset ends as pending exactly if it has no error but tasks remaining. -/
theorem endStatus_eq_pending_iff :
    p.endStatus a = .pending ↔ p.error? a = none ∧ p.remainingOf a ≠ 0 := by
  rw [endStatus, ← Option.not_isSome_iff_eq_none]
  split
  · next herr => simp [herr]
  · next herr => split <;> simp_all

section Summary

variable {plan : RunPlan} {cancelled : Bool}

theorem text_injective : Function.Injective AssetName.text := fun _ _ => AssetName.eq_of_text_eq

/-- The assets with tasks are summed up by their statuses. -/
theorem mem_succeeded_summary : a.text ∈ (p.summary plan cancelled).1.succeeded ↔
    a ∈ plan.scheduled ∧ p.endStatus a = .succeeded := by
  simp only [summary_eq, List.mem_map_of_injective text_injective, List.mem_filter,
    Bool.and_eq_true, Option.isNone_iff_eq_none, beq_iff_eq, endStatus_eq_succeeded_iff]

/-- The summary lists as pending the scheduled assets that end so. -/
theorem mem_pending_summary : a.text ∈ (p.summary plan cancelled).1.pending ↔
    a ∈ plan.scheduled ∧ p.endStatus a = .pending := by
  simp only [summary_eq, List.mem_map_of_injective text_injective, List.mem_filter,
    Bool.and_eq_true, Option.isNone_iff_eq_none, bne_iff_ne, endStatus_eq_pending_iff]

/-- The summary lists as failed the scheduled assets that end so. -/
theorem mem_failed_summary : a.text ∈ (p.summary plan cancelled).1.failed.map Prod.fst ↔
    a ∈ plan.scheduled ∧ p.endStatus a = .failed := by
  simp only [summary_eq, List.mem_map, List.mem_filterMap, Option.map_eq_some_iff,
    endStatus_eq_failed_iff, Option.isSome_iff_exists]
  constructor
  · rintro ⟨-, ⟨b, hb, e, he, rfl⟩, htext⟩
    obtain rfl := AssetName.eq_of_text_eq htext
    exact ⟨hb, e, he⟩
  · rintro ⟨ha, e, he⟩
    exact ⟨_, ⟨a, ha, e, he, rfl⟩, rfl⟩

/-- The summary lists as skipped the assets that the plan skips. -/
theorem mem_skipped_summary : a.text ∈ (p.summary plan cancelled).1.skipped.map Prod.fst ↔
    ∃ reason, (a, reason) ∈ plan.skipped := by
  simp only [summary_eq, List.map_map, List.mem_map, Function.comp_apply, Prod.exists]
  constructor
  · rintro ⟨n, reason, hn, htext⟩
    exact ⟨reason, AssetName.eq_of_text_eq htext ▸ hn⟩
  · rintro ⟨reason, ha⟩
    exact ⟨a, reason, ha, rfl⟩

end Summary

end Progress

namespace Run

variable {p : Pipeline} {c : RunConfig} {plan : RunPlan} {a : AssetName}

/-- When a run begins, the assets that are not left out are pending. -/
theorem status?_initialState_of_mem (ha : a ∈ p.names) (hreason : plan.reason? a.text = none) :
    (initialState p c plan).status? a.text = some .pending := by
  obtain ⟨status, hstatus⟩ : ∃ status, (initialState p c plan).status? a.text = some status := by
    rw [RunState.status?, initialState, RunState.entryOf?_foldl_skip]
    split
    · exact ⟨_, rfl⟩
    · rw [← Option.isSome_iff_exists, Option.isSome_map, RunState.entryOf?, List.find?_isSome]
      exact ⟨_, List.mem_map_of_mem (List.mem_map_of_mem ha), by simp⟩
  rw [hstatus, status?_initialState_of_none hreason hstatus]

/-- No asset is running before the run. -/
theorem status?_initialState_ne_running (name : String) :
    (initialState p c plan).status? name ≠ some .running := by
  rw [RunState.status?, initialState, RunState.entryOf?_foldl_skip]
  intro hrunning
  obtain ⟨e, he, hstatus⟩ := Option.map_eq_some_iff.mp hrunning
  split at he
  · obtain rfl := Option.some.inj he
    cases hstatus
  · rw [RunState.eq_pending_of_entryOf?_start he] at hstatus
    cases hstatus

end Run

end AssetFlow
