import AssetFlow.Proofs.Run.Saved
import AssetFlow.Proofs.Run.Store

/-!
# What a run leaves behind

The file of a run holds the state that was saved last, at every moment from when there is one.
Whatever has been recorded with all its consequences is in that state, and the state says of no
asset that it succeeded unless its tasks have ended well.

## Main definitions

- `Process.Carries`: a run carries out a plan, and its file is kept up with it

## Main statements

- `Process.Run.carries`: every run that has begun carries out a plan
- `Process.Run.refused`: a run that is refused has changed nothing
- `Process.Carries.read?_eq`: what is left if the process is killed
- `Process.Carries.doneWith_of_isComplete`, `Process.Carries.isComplete_of_doneWith`: what the state
  that is kept says of the assets with tasks
-/

namespace AssetFlow

namespace Process

variable {p : Pipeline} {c : RunConfig} {store : Store} {startedAt : Moment} {t t' : Tree}
  {hs : List Happening} {P Q : Process} {h : Option Happening} {plan : RunPlan} {x : Execution}
  {F : RunState} {a : AssetName}

/-- A run carries out a plan, its file holds the state that was saved last as soon as there is one,
and what is not saved yet comes of what happened last. -/
structure Carries (p : Pipeline) (c : RunConfig) (store : Store) (startedAt : Moment) (t : Tree)
    (hs : List Happening) (P : Process) (plan : RunPlan) (x : Execution) : Prop where
  stage_eq : P.stage = .going plan x
  planned : ∃ previous, Run.previous store t c = .ok previous ∧
    RunPlan.build p c previous = .ok plan
  run : Execution.Run plan c.workers (.begin p plan (Run.initialRecorder p c plan)) hs x
  saved : ∃ earlier, x.recorder.saved = P.pending.reverse ++ earlier ∧
    ∀ F, earlier.head? = some F →
      P.files.bytes? (store.runPath startedAt) = some F.text.toUTF8
  recent : hs = [] ∧ P.pending.length = 1 ∧ x.recorder.saved.length = 1 ∨
    ∃ y new, Execution.Run plan c.workers (.begin p plan (Run.initialRecorder p c plan))
        (P.recorded hs) y ∧
      x.recorder.saved = new ++ y.recorder.saved ∧ P.pending.length ≤ new.length ∧
      ∀ s ∈ new, ∀ name, ¬ y.schedule.progress.IsOpen name →
        s.entryOf? name = y.recorder.state.entryOf? name

/-- Nothing has happened as long as a run waits, and nothing ever happens to one that is refused. -/
def Idle (t : Tree) (hs : List Happening) (P : Process) : Prop :=
  hs = [] ∧ P.files = t ∧ P.pending = [] ∧ ∀ plan x, P.stage ≠ .going plan x

/-- A process that has made its plan carries an execution that begins. -/
theorem carries_plan {r : Recorder} (h : Run.prepare p c store t = .ok (plan, r)) :
    Carries p c store startedAt t []
      { files := t, stage := .going plan (.begin p plan r), pending := r.saved.reverse }
      plan (.begin p plan r) := by
  obtain ⟨previous, hprevious, hplan, rfl⟩ := Run.prepare_ok h
  have hsaved : (Execution.begin p plan (Run.initialRecorder p c plan)).recorder.saved =
      (Run.initialRecorder p c plan).saved.reverse.reverse ++ [] := rfl
  exact ⟨rfl, ⟨previous, hprevious, hplan⟩, .nil, ⟨[], hsaved, by simp⟩, .inl ⟨rfl, rfl, rfl⟩⟩

/-- A step of the process takes the execution it carries along. -/
theorem Carries.step (hc : Carries p c store startedAt t hs P plan x)
    (hstep : Step p c store startedAt P h Q) :
    ∃ y, Carries p c store startedAt t (h.toList ++ hs) Q plan y := by
  obtain ⟨hstage, ⟨previous, hprevious, hplan⟩, hrun, ⟨earlier, hsaved, hkept⟩, hrecent⟩ := hc
  cases hstep with
  | refuse _ => cases hstage
  | plan _ => cases hstage
  | @save _ _ plan x s later hsave =>
    -- the file now holds the oldest of the states that were still to be written
    obtain ⟨rfl, rfl⟩ := Stage.going.inj hstage
    refine ⟨x, rfl, ⟨previous, hprevious, hplan⟩, hrun, ⟨s :: earlier, by simp [hsaved], ?_⟩, ?_⟩
    · intro F hF
      obtain rfl := Option.some.inj hF
      exact RunState.bytes?_save hsave
    · rcases later with _ | ⟨s', later⟩
      · -- everything is saved, so that nothing is left open by what happened last
        exact .inr ⟨x, [], hrun, rfl, by simp, by simp⟩
      · rcases hrecent with ⟨-, hone, -⟩ | ⟨y, new, hy, hnew, hlen, hsame⟩
        · simp at hone
        · exact .inr ⟨y, new, hy, hnew, Nat.le_of_succ_le hlen, hsame⟩
  | @happen _ plan x y h new hh hnew =>
    -- the states that this brings about are still to be written
    obtain ⟨rfl, rfl⟩ := Stage.going.inj hstage
    refine ⟨y, rfl, ⟨previous, hprevious, hplan⟩, .next hrun hh,
      ⟨x.recorder.saved, by simp [hnew], ?_⟩, .inr ?_⟩
    · rw [hsaved]
      exact hkept
    · rcases new with _ | ⟨s, new⟩
      · exact ⟨y, [], .next hrun hh, rfl, by simp, by simp⟩
      · have ht := Execution.traced_of_run hplan hrun
        obtain ⟨new', hnew', hsame⟩ := ht.extends_step hh
        have heq : s :: new = new' := List.append_cancel_right (hnew.symm.trans hnew')
        refine ⟨x, s :: new, ?_, hnew, by simp, fun s' hs' => (hsame s' ?_).2⟩
        · simpa [recorded] using hrun
        · exact List.mem_cons_of_mem _ (heq ▸ hs')
  | @elsewhere _ _ plan x _ hsame =>
    obtain ⟨rfl, rfl⟩ := Stage.going.inj hstage
    exact ⟨x, rfl, ⟨previous, hprevious, hplan⟩, hrun, ⟨earlier, hsaved, fun F hF =>
      hsame.trans (hkept F hF)⟩, hrecent⟩

/-- **Every run that has begun carries out a plan**; the others are idle. -/
theorem Run.carries (hr : Process.Run p c store startedAt t hs P) :
    Idle t hs P ∨ ∃ plan x, Carries p c store startedAt t hs P plan x := by
  induction hr with
  | nil => exact .inl ⟨rfl, rfl, rfl, by simp⟩
  | @next hs P Q h hr hstep ih =>
    rcases ih with ⟨rfl, rfl, -, hidle⟩ | ⟨plan, x, hc⟩
    · cases hstep with
      | refuse _ => exact .inl ⟨rfl, rfl, rfl, by simp⟩
      | plan hprepare => exact .inr ⟨_, _, carries_plan hprepare⟩
      | save _ => exact absurd rfl (hidle _ _)
      | happen _ _ => exact absurd rfl (hidle _ _)
      | elsewhere _ => exact absurd rfl (hidle _ _)
    · obtain ⟨y, hy⟩ := hc.step hstep
      exact .inr ⟨plan, y, hy⟩

/-- A process that is going carries a run of the scheduler. -/
theorem Run.carries_of_going (hr : Process.Run p c store startedAt t hs P)
    (hstage : P.stage = .going plan x) : Carries p c store startedAt t hs P plan x := by
  rcases hr.carries with ⟨-, -, -, hidle⟩ | ⟨plan', x', hc⟩
  · exact absurd hstage (hidle _ _)
  · obtain ⟨rfl, rfl⟩ := Stage.going.inj (hc.stage_eq.symm.trans hstage)
    exact hc

/-- A run that is refused has changed nothing, and no task was carried out. -/
theorem Run.refused {e : RunError} (hr : Process.Run p c store startedAt t hs P)
    (hstage : P.stage = .refused e) : hs = [] ∧ ∀ path t', P.MayLeave path t' → t' = t := by
  rcases hr.carries with ⟨rfl, rfl, hpending, -⟩ | ⟨plan, x, hc⟩
  · refine ⟨rfl, fun path t' hleft => hleft.elim id ?_⟩
    rintro ⟨s, later, heq, -⟩
    rw [hpending] at heq
    cases heq
  · rw [hc.stage_eq] at hstage
    cases hstage

/-! ### The state that is kept -/

/-- What is kept on disk is the state before the first one that is still to be written. -/
theorem Carries.kept?_eq (hc : Carries p c store startedAt t hs P plan x) :
    P.kept? = x.recorder.saved[P.pending.length]? := by
  rw [kept?, hc.stage_eq]

/-- What is kept on disk is a state that the execution saved. -/
theorem Carries.mem_saved (hc : Carries p c store startedAt t hs P plan x)
    (hF : P.kept? = some F) : F ∈ x.recorder.saved :=
  List.mem_of_getElem? (hc.kept?_eq ▸ hF)

/-- Nothing happens before the run has a file. -/
theorem Carries.exists_kept (hc : Carries p c store startedAt t hs P plan x) (hne : hs ≠ []) :
    ∃ F, P.kept? = some F := by
  obtain ⟨previous, -, hplan⟩ := hc.planned
  rcases hc.recent with ⟨hnil, -⟩ | ⟨y, new, hy, hsaved, hlen, -⟩
  · exact absurd hnil hne
  · obtain ⟨last, earlier, hlast, -⟩ :=
      (hy.saved_honest hplan (Run.freshFor_initialRecorder hplan)).2
    have hlt : P.pending.length < x.recorder.saved.length := by
      rw [hsaved, hlast, List.length_append, List.length_cons]
      omega
    exact ⟨_, hc.kept?_eq.trans (List.getElem?_eq_getElem hlt)⟩

/-- **What is left if the process is killed** is a file with the state that is kept. -/
theorem Carries.read?_eq (hc : Carries p c store startedAt t hs P plan x)
    (hF : P.kept? = some F) (hleft : P.MayLeave (store.runPath startedAt) t') :
    t'.read? (store.runPath startedAt) = some F.text := by
  obtain ⟨earlier, hsaved, hkept⟩ := hc.saved
  have hhead : earlier.head? = some F := by
    rw [hc.kept?_eq, hsaved, List.getElem?_append_right (by simp)] at hF
    simpa [List.head?_eq_getElem?] using hF
  have hbytes := hkept F hhead
  refine Tree.read?_eq_some ?_
  rcases hleft with rfl | ⟨s, later, -, hint⟩
  · exact hbytes
  · exact hint.bytes?_eq (store.place_beside_ne startedAt) hbytes

/-- An asset with tasks is complete in the state that is kept only if they have ended well. -/
theorem Carries.doneWith_of_isComplete (hc : Carries p c store startedAt t hs P plan x)
    (hF : P.kept? = some F) (hcomplete : F.isComplete a.text = true) : plan.DoneWith hs a := by
  obtain ⟨previous, -, hplan⟩ := hc.planned
  exact hc.run.doneWith_of_isComplete hplan (Run.freshFor_initialRecorder hplan) (hc.mem_saved hF)
    hcomplete

/-- An asset whose tasks have ended well on record is complete in the state that is kept. -/
theorem Carries.isComplete_of_doneWith (hc : Carries p c store startedAt t hs P plan x)
    (hF : P.kept? = some F) (ha : a ∈ plan.scheduled) (hdone : plan.DoneWith (P.recorded hs) a) :
    F.isComplete a.text = true := by
  obtain ⟨previous, -, hplan⟩ := hc.planned
  rw [hc.kept?_eq] at hF
  rcases hc.recent with ⟨-, hpending, hsaved⟩ | ⟨y, new, hy, hsaved, hlen, hsame⟩
  · rw [hpending] at hF
    have := (List.getElem?_eq_some_iff.mp hF).1
    omega
  · obtain ⟨hcomplete, hclosed⟩ := hy.isComplete_of_doneWith hplan ha hdone
    rcases Nat.lt_or_eq_of_le hlen with hlt | heq
    · -- the state was saved in the course of what happened last, when the asset was closed
      rw [hsaved, List.getElem?_append_left hlt] at hF
      rw [RunState.isComplete_congr (hsame F (List.mem_of_getElem? hF) _ hclosed), hcomplete]
    · -- the state was saved before that
      obtain ⟨last, earlier, hlast, hagree⟩ :=
        (hy.saved_honest hplan (Run.freshFor_initialRecorder hplan)).2
      rw [hsaved, List.getElem?_append_right (Nat.le_of_eq heq.symm), hlast, heq,
        Nat.sub_self] at hF
      obtain rfl := Option.some.inj hF
      rw [(hagree a.text).isComplete_eq, hcomplete]

end Process

end AssetFlow
