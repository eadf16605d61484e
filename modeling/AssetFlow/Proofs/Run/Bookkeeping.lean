import AssetFlow.Proofs.Run.Strict

/-!
# The books of a scheduler

The scheduler counts in two places: how many tasks each task still waits for, and how many tasks of
each asset have no outcome. Whatever the world does in a run, both counts are right whenever the
scheduler takes a task or waits for one to end, and what it does next makes no slip: no number falls
below zero, no place lies beyond the end of a row, no task gets a second outcome, and no asset is
missing.

## Main definitions

- `Execution.Books`: the books are right, and the next move makes no slip

## Main statements

- `Execution.Run.counted`, `Execution.Run.outcome?_eq`: what a whole run keeps
- `Execution.books_kept`: the books are right throughout every run of a plan
-/

namespace AssetFlow.Execution

variable {p : Pipeline} {c : RunConfig} {previous : Option RunState} {plan : RunPlan}
  {workers : Nat} {r : Recorder} {hs later : List Happening} {h : Happening} {x y : Execution}
  {tables : RunTables}

/-- The books of a scheduler are right after a row of happenings, and what it does next makes no
slip. -/
structure Books (plan : RunPlan) (workers : Nat) (tables : RunTables) (hs : List Happening)
    (x : Execution) : Prop where
  tasks_eq : x.schedule.progress.tasks = plan.tasks
  /-- A task waits for as many tasks as have not ended well. -/
  waiting_eq : ∀ (i : Nat) (t : PlannedTask), plan.tasks[i]? = some t → x.schedule.waiting[i]? =
    some (t.waitsFor.countP fun j => x.schedule.progress.outcome? j != some .succeeded)
  /-- There is one counter for each asset with tasks, and it shows how many of them have no
  outcome. -/
  remaining_eq : x.schedule.progress.remaining =
    plan.scheduled.map fun a => (a, x.schedule.progress.unfinishedOf a)
  nodup_active : (x.schedule.ready ++ x.schedule.running).Nodup
  open_of_active : ∀ i ∈ x.schedule.ready ++ x.schedule.running,
    x.schedule.progress.outcome? i = none ∧ x.schedule.waiting[i]? = some 0
  /-- An outcome stays as it is in whatever happens later. -/
  outcome_final : ∀ later y, Run plan workers x later y → ∀ i o,
    x.schedule.progress.outcome? i = some o → y.schedule.progress.outcome? i = some o
  not_refused : ∀ i, .refused i ∉ hs
  start_strict : x.schedule.startStrictly tables = .ok x.schedule.start?
  finish_strict : ∀ i ∈ x.schedule.running, ∀ o,
    x.schedule.finishStrictly tables i o = .ok (x.schedule.finish i o)

theorem Traced.counted_step (ht : x.Traced plan workers hs) (hstep : Step plan workers x h y)
    (hc : x.schedule.progress.Counted) : y.schedule.progress.Counted := by
  cases hsum : y.summary with
  | none => exact hc.advance ht.valid.tallied (ht.advance_step hstep hsum)
  | some s =>
    obtain ⟨-, -, -, rfl⟩ := hstep.concludes hsum
    exact hc

/-- The counters of the assets are right in every state of a run. -/
theorem Run.counted (hplan : RunPlan.build p c previous = .ok plan)
    (hr : Run plan workers (begin p plan r) hs x) : x.schedule.progress.Counted := by
  induction hr with
  | nil => exact Progress.counted_begin plan.tasks r
  | next hr hstep ih => exact (traced_of_run hplan hr).counted_step hstep ih

/-- An outcome stays as it is for the rest of a run. -/
theorem Run.outcome?_eq {i : Nat} {o : Outcome} (hplan : RunPlan.build p c previous = .ok plan)
    (hr : Run plan workers (begin p plan r) hs x) (hlater : Run plan workers x later y)
    (hi : x.schedule.progress.outcome? i = some o) : y.schedule.progress.outcome? i = some o := by
  induction hlater with
  | nil => exact hi
  | next hlater hstep ih => exact (traced_of_run hplan (hr.append hlater)).outcome?_step hstep ih

/-- The asset of a task is never missing. -/
theorem Run.refused_not_mem {i : Nat} (hplan : RunPlan.build p c previous = .ok plan)
    (hr : Run plan workers (begin p plan r) hs x) : .refused i ∉ hs := by
  induction hr with
  | nil => exact List.not_mem_nil
  | @next hs x y h hr hstep ih =>
    intro hmem
    rcases List.mem_cons.mp hmem with rfl | hmem
    · cases hstep with
      | refuse _ _ hstart =>
        obtain ⟨j, rest, -, heq, -⟩ := (traced_of_run hplan hr).valid.of_start?_eq hstart
        cases heq
    · exact ih hmem

/-- A task that is ready or running has no outcome and waits for nothing. -/
theorem Traced.open_of_active {i : Nat} (ht : x.Traced plan workers hs)
    (hi : i ∈ x.schedule.ready ++ x.schedule.running) :
    x.schedule.progress.outcome? i = none ∧ x.schedule.waiting[i]? = some 0 := by
  obtain ⟨hlt, hopen, hall⟩ := (ht.valid.active_iff i).mp hi
  refine ⟨hopen, ?_⟩
  rw [ht.valid.waiting_eq i hlt, Option.some.injEq, List.countP_eq_zero]
  intro j hj
  simpa [Progress.Succeeded] using hall j hj

/-- **The books of a scheduler are right** in every state of every run of a plan on its pipeline,
whatever its tasks come to, in whatever order they end and whenever the run is cancelled. The run
begins without a slip, and from each of its states it goes on without one. -/
theorem books_kept (hplan : RunPlan.build p c previous = .ok plan)
    (hr : Run plan workers (begin p plan r) hs x) :
    ∃ tables, beginStrictly p plan r = .ok (tables, begin p plan r) ∧
      x.Books plan workers tables hs := by
  have ht := traced_of_run hplan hr
  obtain ⟨tables, hbegin, hserves⟩ := exists_beginStrictly hplan r
  have hserves : tables.Serves x.schedule := hserves.of_tasks_eq ht.tasks_eq
  have hc := hr.counted hplan
  refine ⟨tables, hbegin, ?_⟩
  constructor
  case tasks_eq => exact ht.tasks_eq
  case waiting_eq =>
    intro i t htask
    have hi := (List.getElem?_eq_some_iff.mp htask).1
    rw [ht.valid.waiting_eq i (ht.tasks_eq ▸ hi), ht.waitsOf_eq htask]
  case remaining_eq => rw [hc, ht.tasks_eq, RunPlan.scheduled]
  case nodup_active => exact ht.valid.nodup
  case open_of_active => exact fun i hi => ht.open_of_active hi
  case outcome_final => exact fun later y hlater i o hi => hr.outcome?_eq hplan hlater hi
  case not_refused => exact fun i => hr.refused_not_mem hplan
  case start_strict => exact ht.valid.startStrictly_eq hserves
  case finish_strict => exact fun i hi o => ht.valid.finishStrictly_eq hc hserves hi

/-! ### A failure next to a running task -/

open RunPlan (plainConfig orders report)

def refunds : AssetName := ⟨"refunds", by decide⟩

def deliveries : AssetName := ⟨"deliveries", by decide⟩

/-- A pipeline of four assets, of which the first one is read by two that the last one reads. -/
def forkedPipeline : Pipeline where
  config := { name := "shop" }
  root := "."
  assets := [{ name := orders, type := "duckdb.sql" },
    { name := refunds, type := "duckdb.sql", upstreams := [orders] },
    { name := deliveries, type := "duckdb.sql", upstreams := [orders] },
    { name := report, type := "duckdb.sql", upstreams := [refunds, deliveries] }]
  unique := by decide

def forkedPlan : RunPlan where
  tasks := [⟨⟨orders, .main⟩, []⟩, ⟨⟨deliveries, .main⟩, [0]⟩, ⟨⟨refunds, .main⟩, [0]⟩,
    ⟨⟨report, .main⟩, [0, 1, 2]⟩]
  skipped := []
  fingerprint := forkedPipeline.fingerprint

theorem build_forkedPlan : RunPlan.build forkedPipeline plainConfig none = .ok forkedPlan := by
  have hg : forkedPipeline.graph = .ok (AssetGraph.ofAssets forkedPipeline.assets) := rfl
  have hselected : RunPlan.selected forkedPipeline (AssetGraph.ofAssets forkedPipeline.assets)
      plainConfig = .ok [orders, refunds, deliveries, report] := rfl
  exact RunPlan.BuiltFrom.build_eq ⟨hg, rfl, hselected, rfl, rfl, List.mergeSort_nil.symm, rfl⟩

def forkedRecorder : Recorder :=
  Run.initialRecorder forkedPipeline plainConfig forkedPlan

/-- One of the two assets in the middle fails while the other one is being produced. -/
def failedBranch : List Happening :=
  [.ended 1 (.failed "no such table"), .started 2, .started 1, .ended 0 .succeeded, .started 0]

theorem forked_run : ∃ x,
    Run forkedPlan 2 (begin forkedPipeline forkedPlan forkedRecorder) failedBranch x ∧
    x.schedule.running = [2] ∧ x.schedule.waiting = [0, 0, 0, 2] ∧
    x.schedule.progress.remaining = [(orders, 0), (deliveries, 0), (refunds, 1), (report, 0)] :=
  ⟨_, .next (.next (.next (.next (.next .nil (.start rfl rfl rfl))
    (.finish rfl rfl (List.mem_cons_self ..))) (.start rfl rfl rfl)) (.start rfl rfl rfl))
    (.finish rfl rfl (List.mem_cons_self ..)), rfl, rfl, rfl⟩

/-- The failure spreads to the last asset, which has no tasks left although it still waits for the
task that is running. -/
theorem books_after_failed_branch : ∃ x tables,
    RunPlan.build forkedPipeline plainConfig none = .ok forkedPlan ∧
    Run forkedPlan 2 (begin forkedPipeline forkedPlan forkedRecorder) failedBranch x ∧
    beginStrictly forkedPipeline forkedPlan forkedRecorder =
      .ok (tables, begin forkedPipeline forkedPlan forkedRecorder) ∧
    x.Books forkedPlan 2 tables failedBranch ∧ x.schedule.running = [2] ∧
    x.schedule.waiting = [0, 0, 0, 2] ∧
    x.schedule.progress.remaining = [(orders, 0), (deliveries, 0), (refunds, 1), (report, 0)] := by
  obtain ⟨x, hr, hrunning, hwaiting, hremaining⟩ := forked_run
  obtain ⟨tables, hbegin, hbooks⟩ := books_kept build_forkedPlan hr
  exact ⟨x, tables, build_forkedPlan, hr, hbegin, hbooks, hrunning, hwaiting, hremaining⟩

end AssetFlow.Execution
