import AssetFlow.Proofs.Run.Process

/-!
# Resuming a run that was killed

Whenever a run is killed, its file tells a run that continues it what to spare: nothing is spared
that was not done, and nothing is done again that was done and recorded, unless it is read from
something that has to be done again.

## Main statements

- `Process.resumes`: what is lost and what is kept when a run is killed and continued
- `Process.resumes_after_orders`: an instance
-/

namespace AssetFlow.Process

variable {p : Pipeline} {c : RunConfig} {store : Store} {startedAt : Moment} {t : Tree}
  {hs : List Happening} {P : Process}

/-- **Killing a run and continuing it** loses nothing and spares nothing wrongly. A run that is
refused leaves the files as they are. Any other run has a file before anything happens, and from
then on the file holds a state `F` with which a run of the same pipeline can go on. An asset with
tasks that is then spared for having succeeded had all its tasks end well. An asset all of whose
tasks had ended well on record is not done again if it is selected and if everything selected that
it is read from is complete in `F`. -/
theorem resumes (hr : Process.Run p c store startedAt t hs P) :
    (∀ e, P.stage = .refused e → hs = [] ∧ ∀ path t', P.MayLeave path t' → t' = t) ∧
    ∀ plan x, P.stage = .going plan x → (hs ≠ [] → ∃ F, P.kept? = some F) ∧
      ∀ F, P.kept? = some F →
        (∀ t', P.MayLeave (store.runPath startedAt) t' →
          t'.read? (store.runPath startedAt) = some F.text) ∧
        F.isCompatible p.fingerprint = true ∧
        ∀ c' plan', RunPlan.build p c' (some F) = .ok plan' → ∀ a ∈ plan.scheduled,
          (plan'.reason? a.text = some .previouslySucceeded → plan.DoneWith hs a) ∧
          ∀ g chosen, p.graph = .ok g → RunPlan.selected p g c' = .ok chosen →
            a ∈ chosen → plan.DoneWith (P.recorded hs) a →
            (∀ u ∈ chosen, p.Ancestor u a → F.isComplete u.text = true) →
              a ∉ plan'.scheduled := by
  refine ⟨fun e hstage => hr.refused hstage, fun plan x hstage => ?_⟩
  have hc := hr.carries_of_going hstage
  refine ⟨hc.exists_kept, fun F hF => ⟨fun t' hleft => hc.read?_eq hF hleft, ?_, ?_⟩⟩
  · obtain ⟨previous, -, hplan⟩ := hc.planned
    exact beq_iff_eq.mpr (hc.run.saved_elsewhere hplan (hc.mem_saved hF)).1
  · intro c' plan' hplan' a ha
    obtain ⟨g, order, chosen, toRun, hb⟩ := RunPlan.build_ok hplan'
    refine ⟨fun hreason => ?_, fun g' chosen' hg hsel hchosen hdone hup => ?_⟩
    · obtain ⟨s, hs, hcomplete, -⟩ := hb.isComplete_of_spared hreason
      obtain rfl := Option.some.inj hs
      exact hc.doneWith_of_isComplete hF hcomplete
    · obtain rfl := Except.ok.inj (hg.symm.trans hb.graph_eq)
      obtain rfl := Except.ok.inj (hsel.symm.trans hb.selected_eq)
      exact hb.not_scheduled_of_isComplete (hc.isComplete_of_doneWith hF ha hdone) hup

/-! ### A run of the small pipeline that is killed -/

open RunPlan

/-- A folder for the states of runs. -/
def smallStore : Store := ⟨"runs"⟩

/-- A file system with this folder. -/
def smallTree : Tree := ⟨[(["runs"], .folder)]⟩

theorem prepare_smallPipeline :
    Run.prepare smallPipeline plainConfig smallStore smallTree =
      .ok (smallPlan, Execution.smallRecorder) := by
  have hvalid : plainConfig.validate = .ok () := rfl
  have hprevious : Run.previous smallStore smallTree plainConfig = .ok none := rfl
  simp only [Run.prepare, hvalid, hprevious, bind, Except.bind, Except.mapError,
    build_smallPipeline]
  rfl

/-- A run of the small pipeline whose first asset is done and saved. -/
theorem small_process : ∃ P x F, P.stage = .going smallPlan x ∧ P.pending = [] ∧
    P.kept? = some F ∧ F.fingerprint = smallPipeline.fingerprint ∧
    F.isComplete orders.text = true ∧ F.isComplete report.text = false ∧
    Process.Run smallPipeline plainConfig smallStore default smallTree
      [.ended 0 .succeeded, .started 0] P :=
  ⟨_, _, _, rfl, rfl, rfl, rfl, rfl, rfl,
    .next (h := none) (.next (h := some _) (.next (h := some _) (.next (h := none)
      (.next (h := none) .nil (.plan prepare_smallPipeline)) (.save rfl))
      (.happen (.start rfl rfl rfl) (List.nil_append _).symm))
      (.happen (.finish rfl rfl (List.mem_cons_self ..)) (List.singleton_append).symm)) (.save rfl)⟩

/-- If the small pipeline is killed once its first asset is done, then this asset is spared, and it
was really done. -/
theorem resumes_after_orders : ∃ P x F,
    Process.Run smallPipeline plainConfig smallStore default smallTree
      [.ended 0 .succeeded, .started 0] P ∧
    P.stage = .going smallPlan x ∧ P.kept? = some F ∧
    P.files.read? (smallStore.runPath default) = some F.text ∧
    build smallPipeline plainConfig (some F) = .ok restPlan ∧
    restPlan.reason? orders.text = some .previouslySucceeded ∧
    smallPlan.DoneWith [.ended 0 .succeeded, .started 0] orders := by
  obtain ⟨P, x, F, hstage, -, hF, hfp, horders, hreport, hr⟩ := small_process
  have hbuild := build_restPlan hfp horders hreport
  have hspared : restPlan.reason? orders.text = some .previouslySucceeded := rfl
  obtain ⟨hread, -, hresume⟩ := ((resumes hr).2 smallPlan x hstage).2 F hF
  refine ⟨P, x, F, hr, hstage, hF, hread _ (.inl rfl), hbuild, hspared, ?_⟩
  exact (hresume plainConfig restPlan hbuild orders (List.mem_cons_self ..)).1 hspared

end AssetFlow.Process
