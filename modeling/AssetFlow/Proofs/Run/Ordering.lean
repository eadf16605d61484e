import AssetFlow.Proofs.Run.Execution

/-!
# The order in which tasks are handed over

No task is handed over before all that it needs has ended well, none is handed over twice, and there
are never more tasks under way than workers. The scheduler hands over a task only once all that it
waits for has ended well, and what it waits for is what it needs, even across assets that take no
part in the run.

## Main statements

- `Execution.handed_over_in_order`: the order in which tasks are handed over
-/

namespace AssetFlow.Execution

variable {p : Pipeline} {c : RunConfig} {previous : Option RunState} {plan : RunPlan}
  {workers : Nat} {r : Recorder} {hs : List Happening} {x : Execution}

/-- **Tasks are handed over in order.** When the data of an asset is to be produced, the data of all
that it is read from has been produced and checked as far as the plan has it; when it is to be
checked or described, it has been produced. No task is handed over twice, and the tasks that are
under way are not more than the workers. -/
theorem handed_over_in_order (hplan : RunPlan.build p c previous = .ok plan)
    (hr : Run plan workers (begin p plan r) hs x) :
    (∀ later i before, hs = later ++ .started i :: before → ∃ t, plan.tasks[i]? = some t ∧
      (t.id.kind = .main → ∀ j u, plan.tasks[j]? = some u →
        u.id.kind = .main ∨ u.id.kind = .checks → p.Ancestor u.id.asset t.id.asset →
          .ended j .succeeded ∈ before) ∧
      (t.id.kind ≠ .main → ∀ j u, plan.tasks[j]? = some u → u.id = ⟨t.id.asset, .main⟩ →
          .ended j .succeeded ∈ before)) ∧
    ((handedOver hs).filterMap fun i => (plan.tasks[i]?).map PlannedTask.id).Nodup ∧
    (inFlight hs).length ≤ max workers 1 := by
  have ht := traced_of_run hplan hr
  refine ⟨?_, ?_, ?_⟩
  · rintro later i before rfl
    -- the run is cut open where the task is handed over
    obtain ⟨y, z, hy, hstep⟩ := hr.split
    have hz := (traced_of_run hplan hy).step hstep
    have hi : .started i ∈ .started i :: before := List.mem_cons_self ..
    obtain ⟨t, htask⟩ : ∃ t, plan.tasks[i]? = some t :=
      ⟨_, List.getElem?_eq_getElem (hz.lt_of_started hi)⟩
    have hended : ∀ j u, plan.tasks[j]? = some u → t.id.WaitsFor p u.id →
        .ended j .succeeded ∈ before := by
      intro j u hu hwait
      have hj := (RunPlan.mem_waitsFor_iff hplan htask).mpr ⟨u, hu, hwait⟩
      simpa using hz.ended_of_started hi htask j hj
    refine ⟨t, htask, fun hkind j u hu hstage hanc => ?_, fun hkind j u hu hid => ?_⟩
    · exact hended j u hu (by simp only [TaskId.WaitsFor, hkind]; exact ⟨hstage, hanc⟩)
    · refine hended j u hu ?_
      cases hk : t.id.kind with
      | main => exact absurd hk hkind
      | checks => simpa only [TaskId.WaitsFor, hk] using hid
      | pushMetadata => simpa only [TaskId.WaitsFor, hk] using hid
  · refine List.Nodup.filterMap (fun i j id hi hj => ?_) ht.nodup_handedOver
    -- two places with one task are the same, as the plan has no task twice
    simp only [← List.getElem?_map] at hi hj
    obtain ⟨hlt, -⟩ := List.getElem?_eq_some_iff.mp hi
    exact (List.getElem?_inj hlt (RunPlan.nodup_ids hplan)).mp (hi.trans hj.symm)
  · rw [ht.inFlight_perm.length_eq]
    exact ht.running_le

/-- The second asset of the small pipeline waits for the first one. -/
theorem report_handed_over_after_orders : ∃ x,
    Run RunPlan.smallPlan 1 (begin RunPlan.smallPipeline RunPlan.smallPlan smallRecorder)
      [.started 1, .ended 0 .succeeded, .started 0] x ∧
    Happening.ended 0 .succeeded ∈ [Happening.ended 0 .succeeded, .started 0] ∧
    (inFlight [.started 1, .ended 0 .succeeded, .started 0]).length ≤ 1 := by
  obtain ⟨x, hx⟩ := small_run
  obtain ⟨hordered, -, hle⟩ := handed_over_in_order RunPlan.build_smallPipeline hx
  obtain ⟨t, ht, hmain, -⟩ := hordered [] 1 _ rfl
  obtain rfl := Option.some.inj ht
  exact ⟨x, hx, hmain rfl 0 _ rfl (.inl rfl) RunPlan.orders_ancestor_report, hle⟩

end AssetFlow.Execution
