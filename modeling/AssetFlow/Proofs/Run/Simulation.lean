import AssetFlow.Proofs.Run.Completion
import AssetFlow.Run.Simulation

/-!
# The run on a virtual clock is a run

A plan that is carried out on the virtual clock goes through one of the runs that the world may
choose, and it goes on to the end: what holds of all runs holds of this one.

## Main definitions

- `Simulation.Follows`: a run on the virtual clock has come as far as a run

## Main statements

- `Simulation.Follows.fill`, `Simulation.Follows.step`: tasks start and end as in a run
- `Simulation.runOn_concludes`: the run on the virtual clock is a whole run
-/

namespace AssetFlow.Simulation

open Execution (Traced)

variable {p : Pipeline} {c : RunConfig} {previous : Option RunState} {plan : RunPlan}
  {workers : Nat} {r : Recorder} {hs : List Happening} {x : Execution} {s s' : Simulation}
  {behave : TaskId → Behaviour}

/-- A run on the virtual clock has come as far as a run that is not over. -/
structure Follows (p : Pipeline) (plan : RunPlan) (r : Recorder) (workers : Nat)
    (hs : List Happening) (x : Execution) (s : Simulation) : Prop where
  run : Execution.Run plan workers (.begin p plan r) hs x
  summary_none : x.summary = none
  schedule_eq : s.schedule = x.schedule
  cancelled_eq : s.cancelled = x.cancelled
  active_eq : s.active.map (·.1) = x.schedule.running

@[simp]
theorem schedule_note (s : Simulation) (i : Nat) (event : TaskId → RunEvent) :
    (s.note i event).schedule = s.schedule := by
  rw [note]
  split <;> rfl

@[simp]
theorem active_note (s : Simulation) (i : Nat) (event : TaskId → RunEvent) :
    (s.note i event).active = s.active := by
  rw [note]
  split <;> rfl

@[simp]
theorem cancelled_note (s : Simulation) (i : Nat) (event : TaskId → RunEvent) :
    (s.note i event).cancelled = s.cancelled := by
  rw [note]
  split <;> rfl

theorem foldl_started (behave : TaskId → Behaviour) (places : List Nat) (s : Simulation) :
    (places.foldl (started behave) s).schedule = s.schedule ∧
      (places.foldl (started behave) s).active.map (·.1) = s.active.map (·.1) ++ places := by
  induction places generalizing s with
  | nil => simp
  | cons i places ih =>
    obtain ⟨hschedule, hactive⟩ := ih (started behave s i)
    rw [List.foldl_cons, hschedule, hactive]
    simp [started]

/-- The task that ends next is one of the active ones. -/
theorem nextEnd_mem {active : List (Nat × Nat)} {e : Nat × Nat} (h : nextEnd active = some e) :
    e ∈ active := by
  induction active with
  | nil => cases h
  | cons a active ih =>
    rw [nextEnd] at h
    split at h
    · next b hb =>
      split at h <;> obtain rfl := Option.some.inj h
      · exact List.mem_cons_of_mem _ (ih hb)
      · exact List.mem_cons_self ..
    · obtain rfl := Option.some.inj h
      exact List.mem_cons_self ..

/-- If no task ends next, none is active. -/
theorem eq_nil_of_nextEnd {active : List (Nat × Nat)} (h : nextEnd active = none) : active = [] := by
  cases active with
  | nil => rfl
  | cons a active =>
    rw [nextEnd] at h
    split at h
    · split at h <;> cases h
    · cases h

/-- Starting tasks while there are free workers is a row of steps of a run. -/
theorem exists_run_fill (hplan : RunPlan.build p c previous = .ok plan)
    (hr : Execution.Run plan workers (.begin p plan r) hs x) (hnone : x.summary = none)
    (hc : x.cancelled = false) (fuel : Nat) (hfuel : x.schedule.ready.length ≤ fuel) :
    ∃ hs' y, Execution.Run plan workers (.begin p plan r) hs' y ∧ y.summary = none ∧
      y.cancelled = false ∧ y.takesTask workers = false ∧
      y.schedule = (x.schedule.fill (max workers 1) fuel).2 ∧
      y.schedule.running = x.schedule.running ++ (x.schedule.fill (max workers 1) fuel).1 ∧
      (handedOver hs').length + x.schedule.running.length =
        (handedOver hs).length + y.schedule.running.length := by
  induction fuel generalizing hs x with
  | zero =>
    have hready : x.schedule.ready = [] := List.length_eq_zero_iff.mp (Nat.le_zero.mp hfuel)
    exact ⟨hs, x, hr, hnone, hc, by simp [Execution.takesTask, hready], rfl,
      (List.append_nil _).symm, rfl⟩
  | succ fuel ih =>
    have hvalid := (Execution.traced_of_run hplan hr).valid
    by_cases hfree : x.schedule.running.length < max workers 1
    · cases hready : x.schedule.ready with
      | nil =>
        have hstart : x.schedule.start? = none := by simp [Schedule.start?, hready]
        exact ⟨hs, x, hr, hnone, hc, by simp [Execution.takesTask, hready],
          by simp [Schedule.fill, hfree, hstart], by simp [Schedule.fill, hfree, hstart], rfl⟩
      | cons i rest =>
        -- one more task starts, and what remains is a smaller case of the same
        have hstart := hvalid.start?_eq hready
        have htakes : x.takesTask workers = true :=
          Execution.takesTask_iff.mpr ⟨hfree, hc, by simp [hready]⟩
        obtain ⟨hs', y, hy, hnone', hc', htakes', hsched, hrun, hlen⟩ :=
          ih (hr.next (.start hnone htakes hstart)) hnone hc
            (by simpa [Execution.withSchedule, hready] using hfuel)
        refine ⟨hs', y, hy, hnone', hc', htakes', ?_, ?_, ?_⟩
        · rw [hsched, Schedule.fill, if_pos hfree, hstart]
          rfl
        · rw [hrun, Schedule.fill, if_pos hfree, hstart]
          simp [Execution.withSchedule]
        · simp only [Execution.withSchedule, handedOver, List.length_cons, List.length_append,
            List.length_nil] at hlen
          omega
    · exact ⟨hs, x, hr, hnone, hc, by simp [Execution.takesTask, hfree],
        by simp [Schedule.fill, hfree], by simp [Schedule.fill, hfree], rfl⟩

/-- The wish to cancel is a step of a run. -/
theorem Follows.cancel (hf : Follows p plan r workers hs x s) :
    Follows p plan r workers (.cancelled :: hs) { x with cancelled := true }
      { s with cancelled := true } :=
  ⟨hf.run.next (.cancel hf.summary_none), hf.summary_none, hf.schedule_eq, rfl, hf.active_eq⟩

/-- **Tasks start** as in a run, until no more are taken. -/
theorem Follows.fill (hplan : RunPlan.build p c previous = .ok plan)
    (hf : Follows p plan r workers hs x s) (behave : TaskId → Behaviour) : ∃ hs' y,
      Follows p plan r workers hs' y (s.fill (max workers 1) behave) ∧
      y.takesTask workers = false ∧ (handedOver hs').length + x.schedule.running.length =
        (handedOver hs).length + y.schedule.running.length := by
  cases hc : s.cancelled with
  | true =>
    have hsame : s.fill (max workers 1) behave = s := by simp [Simulation.fill, hc]
    rw [hsame]
    exact ⟨hs, x, hf, by simp [Execution.takesTask, ← hf.cancelled_eq, hc], rfl⟩
  | false =>
    obtain ⟨hs', y, hy, hnone, hc', htakes, hschedule, hrunning, hlen⟩ :=
      exists_run_fill hplan hf.run hf.summary_none (hf.cancelled_eq ▸ hc) _ (Nat.le_refl _)
    rw [← hf.schedule_eq] at hschedule hrunning
    obtain ⟨hkept, hactive⟩ := foldl_started behave
      (s.schedule.fill (max workers 1) s.schedule.ready.length).1 { s with schedule := y.schedule }
    rw [hf.active_eq, ← hf.schedule_eq, ← hrunning] at hactive
    have hfill : s.fill (max workers 1) behave =
        (s.schedule.fill (max workers 1) s.schedule.ready.length).1.foldl (started behave)
          { s with schedule := y.schedule } := by
      rw [hschedule]
      simp [Simulation.fill, hc]
    rw [hfill]
    -- the tasks that have started may ask the run to stop
    cases hstop : ((s.schedule.fill (max workers 1) s.schedule.ready.length).1.foldl
        (started behave) { s with schedule := y.schedule }).cancelled with
    | false => exact ⟨hs', y, ⟨hy, hnone, hkept, hstop.trans hc'.symm, hactive⟩, htakes, hlen⟩
    | true =>
      exact ⟨.cancelled :: hs', { y with cancelled := true },
        ⟨hy.next (.cancel hnone), hnone, hkept, hstop, hactive⟩,
        by simp [Execution.takesTask], hlen⟩

/-- **A task ends** as in a run. -/
theorem Follows.step (hplan : RunPlan.build p c previous = .ok plan)
    (hf : Follows p plan r workers hs x s) (htakes : x.takesTask workers = false)
    (hstep : s.step behave = some s') : ∃ hs' y, Follows p plan r workers hs' y s' ∧
      (handedOver hs').length + x.schedule.running.length =
        (handedOver hs).length + y.schedule.running.length + 1 := by
  obtain ⟨⟨i, time⟩, hnext, hstep⟩ := Option.bind_eq_some_iff.mp hstep
  obtain rfl := Option.some.inj hstep
  have hi : i ∈ x.schedule.running := by
    rw [← hf.active_eq]
    exact List.mem_map_of_mem (nextEnd_mem hnext)
  have hvalid := (Execution.traced_of_run hplan hf.run).valid
  let o := (behaviourOf behave s i).outcome
  have hrunning : (x.schedule.finish i o).running = x.schedule.running.filter (· != i) :=
    (hvalid.ends_finish hi o).running_eq
  have hlen : (x.schedule.finish i o).running.length + 1 = x.schedule.running.length := by
    have hnodup := (List.nodup_append.mp hvalid.nodup).2.1
    have hpos := List.length_pos_of_mem hi
    rw [hrunning, ← hnodup.erase_eq_filter, List.length_erase_of_mem hi]
    omega
  have hended : Execution.Step plan workers x (.ended i o)
      (x.withSchedule (x.schedule.finish i o)) := .finish hf.summary_none htakes hi
  have hrun := hf.run.next hended
  have hactive : (s.active.filter (·.1 != i)).map (·.1) = (x.schedule.finish i o).running := by
    rw [hrunning, ← hf.active_eq, List.filter_map]
    rfl
  have hcount : (handedOver (.ended i o :: hs)).length + x.schedule.running.length =
      (handedOver hs).length + (x.schedule.finish i o).running.length + 1 := by
    change (handedOver hs).length + x.schedule.running.length = _
    omega
  -- the end of the task may ask the run to stop
  cases hstop : s.cancelled || (behaviourOf behave s i).cancelsAtEnd with
  | false =>
    refine ⟨_, _, ⟨hrun, hf.summary_none, ?_, ?_, ?_⟩, hcount⟩
    · simp [hf.schedule_eq, Execution.withSchedule, o]
    · simp only [cancelled_note, hstop]
      exact (Bool.or_eq_false_iff.mp hstop).1.symm.trans hf.cancelled_eq
    · rw [active_note]
      exact hactive
  | true =>
    refine ⟨_, _, ⟨hrun.next (.cancel hf.summary_none), hf.summary_none, ?_, ?_, ?_⟩, hcount⟩
    · simp [hf.schedule_eq, Execution.withSchedule, o]
    · simp only [cancelled_note, hstop]
    · rw [active_note]
      exact hactive

/-- Without running tasks no task ends. -/
theorem Follows.running_eq_nil (hf : Follows p plan r workers hs x s)
    (hstep : s.step behave = none) : x.schedule.running = [] := by
  cases hnext : nextEnd s.active with
  | none => rw [← hf.active_eq, eq_nil_of_nextEnd hnext, List.map_nil]
  | some e => simp [Simulation.step, hnext] at hstep

/-- The run on the virtual clock goes on until no task is running and none is taken. -/
theorem Follows.loop (hplan : RunPlan.build p c previous = .ok plan)
    (hf : Follows p plan r workers hs x s) (behave : TaskId → Behaviour) (fuel : Nat)
    (hfuel : plan.tasks.length + x.schedule.running.length < fuel + (handedOver hs).length) :
    ∃ hs' y, Follows p plan r workers hs' y (s.loop (max workers 1) behave fuel) ∧
      y.takesTask workers = false ∧ y.schedule.running = [] := by
  induction fuel generalizing hs x s with
  | zero =>
    have := (Execution.traced_of_run hplan hf.run).length_handedOver_le
    omega
  | succ fuel ih =>
    obtain ⟨hs₁, y, hy, htakes, hlen⟩ := hf.fill hplan behave
    rw [Simulation.loop]
    cases hstep : (s.fill (max workers 1) behave).step behave with
    | none => exact ⟨hs₁, y, hy, htakes, hy.running_eq_nil hstep⟩
    | some s' =>
      obtain ⟨hs₂, z, hz, hlen'⟩ := hy.step hplan htakes hstep
      exact ih hz (by omega)

/-- **The run on the virtual clock is a whole run** of the plan. What it is summed up to in the end,
and what is on record then, is what the run comes to. -/
theorem runOn_concludes (hplan : RunPlan.build p c previous = .ok plan) (cancelled : Bool) :
    let s := runOn p.names plan r workers cancelled behave
    ∃ hs x, Execution.Run plan workers (.begin p plan r) hs x ∧
      x.summary = some (s.schedule.progress.summary plan s.cancelled).1 ∧
      x.recorder = (s.schedule.progress.summary plan s.cancelled).2 := by
  intro s
  have hbegin : Follows p plan r workers [] (.begin p plan r)
      { schedule := .begin p.names plan.tasks r } := ⟨.nil, rfl, rfl, rfl, rfl⟩
  have hstart : ∃ hs x, Follows p plan r workers hs x
      { schedule := .begin p.names plan.tasks r, cancelled } ∧
      x.schedule.running = [] := by
    cases cancelled with
    | false => exact ⟨_, _, hbegin, rfl⟩
    | true => exact ⟨_, _, hbegin.cancel, rfl⟩
  obtain ⟨hs, x, hf, hidle⟩ := hstart
  obtain ⟨hs', y, hy, htakes, hidle'⟩ := hf.loop hplan behave (plan.tasks.length + 1)
    (by rw [hidle, List.length_nil]; omega)
  refine ⟨.concluded :: hs', y.conclude plan, hy.run.next (.conclude hy.summary_none htakes hidle'),
    ?_, ?_⟩
  · rw [Execution.conclude_eq, ← hy.schedule_eq, ← hy.cancelled_eq]
    rfl
  · rw [Execution.conclude_eq, ← hy.schedule_eq, ← hy.cancelled_eq]
    rfl

end AssetFlow.Simulation
