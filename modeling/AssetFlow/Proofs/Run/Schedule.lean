import AssetFlow.Proofs.Graph.Order
import AssetFlow.Proofs.Run.Plan
import AssetFlow.Proofs.Run.Progress

/-!
# What a scheduler keeps to

A task is ready or running if and only if it has no outcome and all that it waits for has ended
well, and a task that waits for a failed one has failed. Both hold before a run begins and survive
every move: starting a task only shifts it from the ready tasks to the running ones, a task that
ends well releases those that waited for it alone, and a task that fails takes with it all that wait
for it, directly or not, of which none was ready.

## Main definitions

- `Progress.Spread`: a failure has spread from a stack of tasks
- `Schedule.Valid`: what a scheduler keeps to

## Main statements

- `Schedule.foldl_release`, `Schedule.failAll_spec`: the two ways in which an outcome is passed on
- `Schedule.valid_begin`, `Schedule.Valid.start`, `Schedule.Valid.finish`: the scheduler keeps to it
-/

namespace AssetFlow

/-- From one progress to another, tasks that had no outcome failed for a reason: those of a stack
and all that wait for a task that failed so. -/
structure Progress.Spread (reason : String) (stack : List Nat) (p q : Progress) : Prop where
  advance : p.Advance q
  outcome_or : ∀ j, q.outcome? j = p.outcome? j ∨
    p.outcome? j = none ∧ q.outcome? j = some (.failed reason)
  stack_finished : ∀ j ∈ stack, q.isFinished j = true
  cause : ∀ j, p.outcome? j = none → q.isFinished j = true →
    j ∈ stack ∨ ∃ d ∈ p.waitsOf j, p.outcome? d = none ∧ q.isFinished d = true
  closed : ∀ d, p.outcome? d = none → q.isFinished d = true →
    ∀ j, d ∈ p.waitsOf j → q.isFinished j = true

namespace Progress

variable {reason : String} {stack more : List Nat} {p q : Progress} {i j : Nat} {a : AssetName}

/-- A task that is finished stays finished. -/
theorem isFinished_advance (h : p.Tallied) (hpq : p.Advance q) (hi : p.isFinished i = true) :
    q.isFinished i = true := by
  obtain ⟨o, ho⟩ := Option.isSome_iff_exists.mp hi
  exact Option.isSome_iff_exists.mpr ⟨o, h.outcome?_advance hpq ho⟩

/-- A failure that reaches nobody changes nothing. -/
theorem Spread.nil (reason : String) (p : Progress) : p.Spread reason [] p where
  advance := .refl
  outcome_or _ := .inl rfl
  stack_finished := by simp
  cause j hnone hfin := by simp [isFinished, hnone] at hfin
  closed d hnone hfin := by simp [isFinished, hnone] at hfin

/-- A task that is finished already may stand on the stack as well. -/
theorem Spread.of_finished (hs : p.Spread reason stack q) (h : p.Tallied)
    (hi : p.isFinished i = true) : p.Spread reason (i :: stack) q where
  advance := hs.advance
  outcome_or := hs.outcome_or
  stack_finished := by
    intro j hj
    rcases List.mem_cons.mp hj with rfl | hj
    · exact isFinished_advance h hs.advance hi
    · exact hs.stack_finished j hj
  cause j hnone hfin := (hs.cause j hnone hfin).imp_left (List.mem_cons_of_mem i)
  closed := hs.closed

/-- A task fails, and its failure spreads from the tasks that wait for it. -/
theorem Spread.of_finish (hs : (p.finish i (.failed reason)).Spread reason (more ++ stack) q)
    (h : p.Tallied) (ha : p.asset? i = some a) (hi : p.outcome? i = none)
    (hmore : ∀ j, j ∈ more ↔ i ∈ p.waitsOf j) : p.Spread reason (i :: stack) q := by
  have hmove : p.Move (p.finish i (.failed reason)) := .finish _ ha hi
  have hout : ∀ j, (p.finish i (.failed reason)).outcome? j =
      if j = i then some (.failed reason) else p.outcome? j := fun j =>
    outcome?_finish h.length_eq ha
  have hfinal : q.outcome? i = some (.failed reason) :=
    (h.move hmove).outcome?_advance hs.advance (by rw [hout, if_pos rfl])
  have hnone : ∀ {j}, j ≠ i → p.outcome? j = none →
      (p.finish i (.failed reason)).outcome? j = none := fun hne hj => by rwa [hout, if_neg hne]
  constructor
  case advance => exact .head hmove hs.advance
  case outcome_or =>
    intro j
    rcases eq_or_ne j i with rfl | hne
    · exact .inr ⟨hi, hfinal⟩
    · have hor := hs.outcome_or j
      rwa [hout, if_neg hne] at hor
  case stack_finished =>
    intro j hj
    rcases List.mem_cons.mp hj with rfl | hj
    · simp [isFinished, hfinal]
    · exact hs.stack_finished j (List.mem_append_right _ hj)
  case cause =>
    intro j hj hfin
    rcases eq_or_ne j i with rfl | hne
    · exact .inl (List.mem_cons_self ..)
    -- those pushed for the task wait for it, and it is one of those that fail here
    · rcases hs.cause j (hnone hne hj) hfin with hmem | ⟨d, hd, hdnone, hdfin⟩
      · rcases List.mem_append.mp hmem with hmem | hmem
        · exact .inr ⟨i, (hmore j).mp hmem, hi, by simp [isFinished, hfinal]⟩
        · exact .inl (List.mem_cons_of_mem i hmem)
      · refine .inr ⟨d, by simpa using hd, ?_, hdfin⟩
        rw [hout] at hdnone
        split at hdnone
        · cases hdnone
        · exact hdnone
  case closed =>
    intro d hd hfin j hj
    rcases eq_or_ne d i with rfl | hne
    · exact hs.stack_finished j (List.mem_append_left _ ((hmore j).mpr hj))
    · exact hs.closed d (hnone hne hd) hfin j (by simpa using hj)

/-- A failure that spreads does not change what tasks wait for. -/
theorem Spread.waitsOf_eq (hs : p.Spread reason stack q) (j : Nat) : q.waitsOf j = p.waitsOf j := by
  simp only [waitsOf, tasks_advance hs.advance]

/-- No task ends well when a failure spreads. -/
theorem Spread.succeeded_iff (hs : p.Spread reason stack q) : q.Succeeded j ↔ p.Succeeded j := by
  rcases hs.outcome_or j with heq | ⟨hnone, heq⟩
  · rw [Succeeded, Succeeded, heq]
  · simp [Succeeded, hnone, heq]

/-- A task fails only if it is on the stack or waits for a task that has not ended well. -/
theorem Spread.outcome?_eq_none (hs : p.Spread reason stack q) (hnone : p.outcome? j = none)
    (hstack : j ∉ stack) (hall : ∀ k ∈ p.waitsOf j, p.Succeeded k) : q.outcome? j = none := by
  by_contra hsome
  have hfin : q.isFinished j = true := by
    rw [← Bool.not_eq_false, not_isFinished_iff]
    exact hsome
  rcases hs.cause j hnone hfin with hmem | ⟨d, hd, hdnone, -⟩
  · exact hstack hmem
  · have hd := hall d hd
    rw [Succeeded, hdnone] at hd
    cases hd

/-- A failure that spreads takes no outcome away. -/
theorem Spread.outcome?_of_none (hs : p.Spread reason stack q) (hnone : q.outcome? j = none) :
    p.outcome? j = none := by
  rcases hs.outcome_or j with heq | ⟨-, heq⟩
  · rw [← heq, hnone]
  · rw [heq] at hnone
    cases hnone

end Progress

namespace Schedule

variable {s : Schedule} {i j : Nat}

/-! ### Dependents -/

/-- The dependents of a task are the tasks that wait for it. -/
theorem mem_dependents : j ∈ s.dependents i ↔ i ∈ s.progress.waitsOf j := by
  simp only [dependents, Progress.waitsOf, List.mem_map, List.mem_filter, Prod.exists,
    List.mem_zipIdx_iff_getElem?, List.contains_iff_mem]
  constructor
  · rintro ⟨t, k, ⟨ht, hi⟩, rfl⟩
    simpa [ht] using hi
  · intro hi
    cases ht : s.progress.tasks[j]? with
    | none => simp [ht] at hi
    | some t => exact ⟨t, j, ⟨ht, by simpa [ht] using hi⟩, rfl⟩

theorem nodup_dependents (s : Schedule) (i : Nat) : (s.dependents i).Nodup := by
  have hplaces : (s.progress.tasks.zipIdx.map (·.2)).Nodup := by
    rw [List.zipIdx_map_snd]
    exact List.nodup_range'
  exact hplaces.sublist (List.filter_sublist.map _)

theorem lt_of_mem_waitsOf {p : Progress} (h : j ∈ p.waitsOf i) : i < p.tasks.length := by
  by_contra hnot
  simp [Progress.waitsOf, List.getElem?_eq_none (Nat.le_of_not_lt hnot)] at h

theorem lt_of_mem_dependents (h : j ∈ s.dependents i) : j < s.progress.tasks.length :=
  lt_of_mem_waitsOf (mem_dependents.mp h)

/-- What is pushed on a stack of tasks for a task that fails are tasks, too. -/
theorem lt_of_mem_pushed {stack : List Nat} (hstack : ∀ d ∈ stack, d < s.progress.tasks.length) :
    ∀ d ∈ (s.dependents i).reverse ++ stack, d < s.progress.tasks.length := by
  intro d hd
  rcases List.mem_append.mp hd with hd | hd
  · exact lt_of_mem_dependents (List.mem_reverse.mp hd)
  · exact hstack d hd

/-! ### Releasing tasks -/

/-- Whether a task is ready as soon as it waits for one task less. -/
def isReleased (s : Schedule) (i : Nat) : Bool :=
  (s.waiting[i]?).getD 0 - 1 == 0 && !s.progress.isFinished i

theorem ready_release (s : Schedule) (i : Nat) :
    (s.release i).ready = if s.isReleased i then s.ready ++ [i] else s.ready :=
  rfl

/-- Releasing several tasks lowers what they wait for, and appends the ready ones in their order. -/
theorem foldl_release {ds : List Nat} (hnd : ds.Nodup) (s : Schedule) : ds.foldl release s =
    { s with
      waiting := s.waiting.mapIdx fun j n => if ds.contains j then n - 1 else n
      ready := s.ready ++ ds.filter s.isReleased } := by
  induction ds generalizing s with
  | nil =>
    have hsame : s.waiting.mapIdx (fun _ n => n) = s.waiting := by
      apply List.ext_getElem?
      simp
    simp [hsame]
  | cons d ds ih =>
    -- releasing a task touches no other one, and it does not come again
    obtain ⟨hd, hnd⟩ := List.nodup_cons.mp hnd
    rw [List.foldl_cons, ih hnd]
    have hwaiting : (s.release d).waiting.mapIdx (fun j n => if ds.contains j then n - 1 else n) =
        s.waiting.mapIdx fun j n => if (d :: ds).contains j then n - 1 else n := by
      apply List.ext_getElem?
      intro j
      simp only [release, List.getElem?_mapIdx, List.getElem?_set]
      rcases eq_or_ne d j with rfl | hj
      · by_cases hlt : d < s.waiting.length
        · simp [hlt, hd]
        · simp [hlt]
      · simp [hj, Ne.symm hj]
    have hready : (s.release d).ready ++ ds.filter (s.release d).isReleased =
        s.ready ++ (d :: ds).filter s.isReleased := by
      have hrest : ds.filter (s.release d).isReleased = ds.filter s.isReleased := by
        refine List.filter_congr fun j hj => ?_
        have hne : d ≠ j := fun heq => hd (heq ▸ hj)
        simp [isReleased, release, hne]
      rw [hrest, List.filter_cons, ready_release]
      split <;> simp
    simp only [hwaiting, hready]
    rfl

/-! ### Passing failures on -/

/-- The number of times that a task without an outcome is waited for. -/
def openWaits (s : Schedule) : Nat :=
  (s.progress.tasks.flatMap (·.waitsFor)).countP fun j => !s.progress.isFinished j

/-- A task has no more dependents than there are waits for it. -/
theorem length_dependents_le (s : Schedule) (i : Nat) :
    (s.dependents i).length ≤ (s.progress.tasks.flatMap (·.waitsFor)).countP (· == i) := by
  have hlength : (s.dependents i).length =
      s.progress.tasks.countP fun t => t.waitsFor.contains i := by
    rw [dependents, List.length_map, ← List.countP_eq_length_filter]
    conv_rhs => rw [← List.zipIdx_map_fst 0 s.progress.tasks, List.countP_map]
    rfl
  rw [hlength]
  induction s.progress.tasks with
  | nil => simp
  | cons t tasks ih =>
    rw [List.countP_cons, List.flatMap_cons, List.countP_append]
    split
    · next hi =>
      have : 0 < t.waitsFor.countP (· == i) :=
        List.countP_pos_iff.mpr ⟨i, List.contains_iff_mem.mp hi, by simp⟩
      omega
    · omega

/-- A task that finishes takes the waits of its dependents off the open ones. -/
theorem openWaits_finish {a : AssetName} {o : Outcome} (h : s.progress.Tallied)
    (ha : s.progress.asset? i = some a) (hopen : s.progress.outcome? i = none) :
    (s.dependents i).length + { s with progress := s.progress.finish i o }.openWaits ≤
      s.openWaits := by
  refine Nat.le_trans (Nat.add_le_add_right (length_dependents_le s i) _) ?_
  simp only [openWaits, Progress.tasks_finish]
  have hfin : ∀ j, (s.progress.finish i o).isFinished j = (j == i || s.progress.isFinished j) := by
    intro j
    simp only [Progress.isFinished, Progress.outcome?_finish h.length_eq ha]
    by_cases hj : j = i <;> simp [hj]
  refine Graph.countP_add_le ?_ ?_ ?_ _
  · intro j hj
    rw [eq_of_beq hj]
    simp [Progress.not_isFinished_iff.mpr hopen]
  · intro j hj
    simp only [hfin, Bool.not_eq_true', Bool.or_eq_false_iff] at hj ⊢
    exact hj.2
  · intro j hj hj'
    simp [hfin, eq_of_beq hj] at hj'

/-- The steps that are given to a failure are enough for the tasks that wait for the one that failed
and for all that is pushed on the stack later. -/
theorem length_dependents_add_openWaits_le (s : Schedule) (i : Nat) :
    (s.dependents i).length + s.openWaits ≤ 2 * s.waitCount + 1 := by
  have hcount := length_dependents_le s i
  have hall : (s.progress.tasks.flatMap (·.waitsFor)).countP (· == i) ≤ s.waitCount :=
    List.countP_le_length
  have hopen : s.openWaits ≤ s.waitCount := List.countP_le_length
  omega

/-- A failure that is given enough steps spreads from all tasks of the stack. -/
theorem failAll_spec {reason : String} {fuel : Nat} {stack : List Nat} (h : s.progress.Tallied)
    (hstack : ∀ d ∈ stack, d < s.progress.tasks.length)
    (hfuel : stack.length + s.openWaits ≤ fuel) :
    ∃ q, s.failAll reason fuel stack = { s with progress := q } ∧
      s.progress.Spread reason stack q := by
  induction fuel generalizing s stack with
  | zero =>
    obtain rfl : stack = [] := List.eq_nil_of_length_eq_zero (by omega)
    exact ⟨s.progress, rfl, .nil reason _⟩
  | succ fuel ih =>
    match stack with
    | [] => exact ⟨s.progress, rfl, .nil reason _⟩
    | i :: stack =>
      simp only [failAll]
      split
      · next hdone =>
        obtain ⟨q, hq, hspread⟩ := ih h (fun d hd => hstack d (List.mem_cons_of_mem i hd)) (by
          rw [List.length_cons] at hfuel
          omega)
        exact ⟨q, hq, hspread.of_finished h hdone⟩
      · next hopen =>
        rw [Bool.not_eq_true, Progress.not_isFinished_iff] at hopen
        obtain ⟨a, ha⟩ := Progress.exists_asset? (hstack i (List.mem_cons_self ..))
        have hlt : ∀ d ∈ (s.dependents i).reverse ++ stack,
            d < (s.progress.finish i (.failed reason)).tasks.length := by
          rw [Progress.tasks_finish]
          exact lt_of_mem_pushed fun d hd => hstack d (List.mem_cons_of_mem i hd)
        -- the tasks that are put on the stack no longer count as waited for
        have hless := openWaits_finish (o := .failed reason) h ha hopen
        have hmove : s.progress.Move (s.progress.finish i (.failed reason)) := .finish _ ha hopen
        obtain ⟨q, hq, hspread⟩ := ih (s := { s with progress := s.progress.finish i _ })
          (h.move hmove) hlt (by
            rw [List.length_cons] at hfuel
            rw [List.length_append, List.length_reverse]
            omega)
        exact ⟨q, hq, hspread.of_finish h ha hopen fun j => by
          rw [List.mem_reverse, mem_dependents]⟩

/-! ### What a scheduler keeps to -/

/-- **What a scheduler keeps to.** -/
structure Valid (s : Schedule) : Prop where
  tallied : s.progress.Tallied
  waitsBack : RunPlan.WaitsBack s.progress.tasks
  known : ∀ i a, s.progress.asset? i = some a → a ∈ s.known
  /-- A task waits for as many tasks as have not ended well. -/
  waiting_eq : ∀ i < s.progress.tasks.length, s.waiting[i]? =
    some ((s.progress.waitsOf i).countP fun j => s.progress.outcome? j != some .succeeded)
  nodup : (s.ready ++ s.running).Nodup
  /-- A task is ready or running once all that it waits for has ended well, until it ends. -/
  active_iff : ∀ i, i ∈ s.ready ++ s.running ↔ i < s.progress.tasks.length ∧
    s.progress.outcome? i = none ∧ ∀ j ∈ s.progress.waitsOf i, s.progress.Succeeded j
  succeeded_of_waits : ∀ i, s.progress.Succeeded i →
    ∀ j ∈ s.progress.waitsOf i, s.progress.Succeeded j
  failed_of_waits : ∀ i, ∀ j ∈ s.progress.waitsOf i, s.progress.Failed j → s.progress.Failed i

theorem waitsOf_of_getElem? {p : Progress} {t : PlannedTask} (ht : p.tasks[i]? = some t) :
    p.waitsOf i = t.waitsFor := by
  simp [Progress.waitsOf, ht]

/-- No task waits twice for one other. -/
theorem Valid.nodup_waitsOf (h : s.Valid) (i : Nat) : (s.progress.waitsOf i).Nodup := by
  cases ht : s.progress.tasks[i]? with
  | none => simp [Progress.waitsOf, ht]
  | some t =>
    rw [waitsOf_of_getElem? ht]
    exact (h.waitsBack i t ht).1

/-- Tasks wait for earlier ones. -/
theorem Valid.lt_of_mem_waitsOf (h : s.Valid) (hj : j ∈ s.progress.waitsOf i) : j < i := by
  cases ht : s.progress.tasks[i]? with
  | none => simp [Progress.waitsOf, ht] at hj
  | some t =>
    rw [waitsOf_of_getElem? ht] at hj
    exact (h.waitsBack i t ht).2 j hj

/-- Before a run begins, the tasks are ready that wait for nothing. -/
theorem valid_begin {known : List AssetName} {tasks : List PlannedTask} (r : Recorder)
    (hback : RunPlan.WaitsBack tasks) (hknown : ∀ t ∈ tasks, t.id.asset ∈ known) :
    (begin known tasks r).Valid := by
  have hopen := Progress.outcome?_begin tasks r
  have hnot : ∀ i, ¬ (Progress.begin tasks r).Succeeded i := fun i hi => by
    simp [Progress.Succeeded, hopen] at hi
  constructor
  case tallied => exact Progress.tallied_begin tasks r
  case waitsBack => exact hback
  case known =>
    intro i a ha
    obtain ⟨t, ht, rfl⟩ := Option.map_eq_some_iff.mp ha
    exact hknown t (List.mem_of_getElem? ht)
  case waiting_eq =>
    intro i hi
    have ht : tasks[i]? = some tasks[i] := List.getElem?_eq_getElem hi
    -- nothing has ended well, so that all that is waited for counts
    have hall : ∀ j, (((Progress.begin tasks r).outcome? j) != some .succeeded) = true := fun j =>
      bne_iff_ne.mpr (hnot j)
    simp only [begin, hall, List.countP_true, List.getElem?_map, ht, Option.map_some,
      waitsOf_of_getElem? (p := .begin tasks r) ht]
  case nodup =>
    simp only [begin, List.append_nil]
    exact List.nodup_range.filter _
  case active_iff =>
    intro i
    simp only [begin, List.append_nil, List.mem_filter, List.mem_range, hopen, true_and]
    refine and_congr_right fun hi => ?_
    have ht : tasks[i]? = some tasks[i] := List.getElem?_eq_getElem hi
    rw [waitsOf_of_getElem? (p := .begin tasks r) ht, List.getElem?_map, ht]
    simp only [Option.map_some, beq_iff_eq, Option.some.injEq, List.length_eq_zero_iff]
    constructor
    · intro hnil j hj
      rw [hnil] at hj
      cases hj
    · intro hall
      exact List.eq_nil_iff_forall_not_mem.mpr fun j hj => hnot j (hall j hj)
  case succeeded_of_waits => exact fun i hi => absurd hi (hnot i)
  case failed_of_waits =>
    rintro i j - ⟨message, hj⟩
    exact absurd ((hopen j).symm.trans hj) (by simp)

/-! ### Starting a task -/

/-- The asset of a task is never missing, so that the next task is handed over. -/
theorem Valid.start?_eq {rest : List Nat} (h : s.Valid) (hready : s.ready = i :: rest) :
    s.start? = some (.handed i, { s with
      ready := rest
      running := s.running ++ [i]
      progress := s.progress.start i }) := by
  have hmissing : s.missing? i = none := by
    rw [missing?, Option.filter_eq_none_iff]
    intro a ha
    simp [h.known i a ha]
  simp only [start?, hready, hmissing]

/-- The schedule in which the next task has been handed over. -/
theorem Valid.of_start?_eq {t : Schedule} {d : Dispatch} (h : s.Valid)
    (hstart : s.start? = some (d, t)) : ∃ i rest, s.ready = i :: rest ∧ d = .handed i ∧
      t = { s with
        ready := rest, running := s.running ++ [i], progress := s.progress.start i } := by
  cases hready : s.ready with
  | nil => simp [start?, hready] at hstart
  | cons i rest =>
    rw [h.start?_eq hready] at hstart
    cases hstart
    exact ⟨i, rest, rfl, rfl, rfl⟩

/-- Starting the first ready task keeps a schedule valid. -/
theorem Valid.start {rest : List Nat} (h : s.Valid) (hready : s.ready = i :: rest) :
    { s with ready := rest, running := s.running ++ [i], progress := s.progress.start i }.Valid := by
  have hactive := (h.active_iff i).mp (by simp [hready])
  have hperm : (rest ++ (s.running ++ [i])).Perm (s.ready ++ s.running) := by
    rw [hready, ← List.append_assoc]
    exact List.perm_append_singleton i _
  obtain ⟨a, ha⟩ := Progress.exists_asset? hactive.1
  constructor
  case tallied => exact h.tallied.move (.start ha hactive.2.1)
  case waitsBack => simpa using h.waitsBack
  case known => simpa using h.known
  case waiting_eq => simpa [Progress.Succeeded] using h.waiting_eq
  case nodup => exact hperm.nodup_iff.mpr h.nodup
  case active_iff =>
    intro j
    simpa only [hperm.mem_iff, Progress.tasks_start, Progress.outcome?_start,
      Progress.waitsOf_start, Progress.Succeeded] using h.active_iff j
  case succeeded_of_waits => simpa [Progress.Succeeded] using h.succeeded_of_waits
  case failed_of_waits => simpa [Progress.Failed] using h.failed_of_waits

/-! ### Ending a task -/

/-- A running task is unfinished, and all that it waits for has succeeded. -/
theorem Valid.of_mem_running (h : s.Valid) (hi : i ∈ s.running) : i < s.progress.tasks.length ∧
    s.progress.outcome? i = none ∧ ∀ j ∈ s.progress.waitsOf i, s.progress.Succeeded j :=
  (h.active_iff i).mp (List.mem_append_right _ hi)

/-- A task that ends well releases the tasks that wait for it. -/
theorem finish_succeeded (s : Schedule) (i : Nat) : s.finish i .succeeded = { s with
    progress := s.progress.finish i .succeeded
    waiting := s.waiting.mapIdx fun j n => if (s.dependents i).contains j then n - 1 else n
    ready := s.ready ++ (s.dependents i).filter
      { s with progress := s.progress.finish i .succeeded }.isReleased
    running := s.running.filter (· != i) } := by
  have hdeps : { s with
      running := s.running.filter (· != i)
      progress := s.progress.finish i .succeeded }.dependents i = s.dependents i := by
    simp only [dependents, Progress.tasks_finish]
  simp only [finish, hdeps]
  rw [foldl_release (nodup_dependents s i)]
  rfl

/-- A task that fails takes with it the tasks that wait for it. -/
theorem finish_failed {a : AssetName} (message : String) (h : s.progress.Tallied)
    (ha : s.progress.asset? i = some a) (hopen : s.progress.outcome? i = none) :
    ∃ q, s.finish i (.failed message) =
        { s with progress := q, running := s.running.filter (· != i) } ∧
      (s.progress.finish i (.failed message)).Spread s!"upstream '{a.text}' failed"
        (s.dependents i).reverse q := by
  have hdeps : { s with
      running := s.running.filter (· != i)
      progress := s.progress.finish i (.failed message) }.dependents i = s.dependents i := by
    simp only [dependents, Progress.tasks_finish]
  simp only [finish, hdeps, Progress.asset?_finish, ha]
  refine failAll_spec (h.move (.finish _ ha hopen)) (fun d hd => ?_) ?_
  · simpa using lt_of_mem_dependents (List.mem_reverse.mp hd)
  · rw [List.length_reverse, ← hdeps]
    exact length_dependents_add_openWaits_le _ i

/-- Once a task has ended well, the tasks that wait for it wait for one task less. -/
theorem countP_open_finish {p : Progress} {a : AssetName} (hl : p.outcomes.length = p.tasks.length)
    (ha : p.asset? i = some a) (hopen : p.outcome? i = none) {waits : List Nat}
    (hnd : waits.Nodup) :
    waits.countP (fun k => (p.finish i .succeeded).outcome? k != some .succeeded) =
      if i ∈ waits then waits.countP (fun k => p.outcome? k != some .succeeded) - 1
      else waits.countP (fun k => p.outcome? k != some .succeeded) := by
  have hcond : ∀ k, ((p.finish i .succeeded).outcome? k != some .succeeded) =
      (p.outcome? k != some .succeeded && k != i) := by
    intro k
    rw [Progress.outcome?_finish hl ha]
    by_cases hk : k = i <;> simp [hk]
  simp only [hcond]
  split
  · next hi =>
    have hdrop := countP_and_ne_add_one (p := fun k => p.outcome? k != some .succeeded) hnd hi
      (by simp [hopen])
    omega
  · next hi =>
    refine List.countP_congr fun k hk => ?_
    have hne : k ≠ i := fun heq => hi (heq ▸ hk)
    simp [hne]

/-- The tasks that are released are those that have become ready. -/
theorem Valid.isReleased_iff {p : Progress} (h : s.Valid) (hj : j < s.progress.tasks.length)
    (hcount : (s.progress.waitsOf j).countP (fun k => p.outcome? k != some .succeeded) =
      (s.progress.waitsOf j).countP (fun k => s.progress.outcome? k != some .succeeded) - 1) :
    { s with progress := p }.isReleased j = true ↔
      p.outcome? j = none ∧ ∀ k ∈ s.progress.waitsOf j, p.Succeeded k := by
  simp only [isReleased, h.waiting_eq j hj, Option.getD_some, ← hcount, Bool.and_eq_true,
    beq_iff_eq, List.countP_eq_zero, Bool.not_eq_true', Progress.not_isFinished_iff, bne_iff_ne,
    not_not, Progress.Succeeded]
  exact and_comm

/-- Tasks that wait for one that is still running have not become ready before. -/
theorem Valid.nodup_released (h : s.Valid) (hi : i ∈ s.running) (f : Nat → Bool) :
    (s.ready ++ (s.dependents i).filter f ++ s.running.filter (· != i)).Nodup := by
  have hnew : ∀ j ∈ s.dependents i, j ∉ s.ready ++ s.running := by
    intro j hj hmem
    have hsucc := ((h.active_iff j).mp hmem).2.2 i (mem_dependents.mp hj)
    rw [Progress.Succeeded, (h.of_mem_running hi).2.1] at hsucc
    cases hsucc
  obtain ⟨hready, hrunning, hdisj⟩ := List.nodup_append.mp h.nodup
  refine List.nodup_append.mpr ⟨List.nodup_append.mpr
    ⟨hready, (nodup_dependents s i).filter _, ?_⟩, hrunning.filter _, ?_⟩
  · rintro j hj k hk rfl
    exact hnew j (List.mem_filter.mp hk).1 (List.mem_append_left _ hj)
  · rintro j hj k hk rfl
    have hk := (List.mem_filter.mp hk).1
    rcases List.mem_append.mp hj with hj | hj
    · exact hdisj j hj j hk rfl
    · exact hnew j (List.mem_filter.mp hj).1 (List.mem_append_right _ hk)

/-- When a task has ended well, the tasks that are ready are the old ones and those released. -/
theorem Valid.active_finish_succeeded (h : s.Valid) (hi : i ∈ s.running) (j : Nat) :
    j ∈ s.ready ++ (s.dependents i).filter
        { s with progress := s.progress.finish i .succeeded }.isReleased ++
        s.running.filter (· != i) ↔
      j < s.progress.tasks.length ∧ (s.progress.finish i .succeeded).outcome? j = none ∧
        ∀ k ∈ s.progress.waitsOf j, (s.progress.finish i .succeeded).Succeeded k := by
  obtain ⟨hlt, hopen, -⟩ := h.of_mem_running hi
  obtain ⟨a, ha⟩ := Progress.exists_asset? hlt
  have hl := h.tallied.length_eq
  have hcount := countP_open_finish hl ha hopen (h.nodup_waitsOf j)
  have hsucc : ∀ k, (s.progress.finish i .succeeded).Succeeded k ↔
      k = i ∨ s.progress.Succeeded k := fun k => Progress.succeeded_finish_iff hl ha
  simp only [List.mem_append, List.mem_filter, bne_iff_ne]
  constructor
  · have hold : j ≠ i → j ∈ s.ready ++ s.running → j < s.progress.tasks.length ∧
        (s.progress.finish i .succeeded).outcome? j = none ∧
        ∀ k ∈ s.progress.waitsOf j, (s.progress.finish i .succeeded).Succeeded k := by
      intro hne hj
      obtain ⟨hlt, hnone, hall⟩ := (h.active_iff j).mp hj
      exact ⟨hlt, by rwa [Progress.outcome?_finish hl ha, if_neg hne],
        fun k hk => (hsucc k).mpr (.inr (hall k hk))⟩
    rintro ((hj | ⟨hj, hrel⟩) | ⟨hj, hne⟩)
    -- ready before, released now, or still running
    · exact hold (fun heq => (List.nodup_append.mp h.nodup).2.2 j hj i hi heq)
        (List.mem_append_left _ hj)
    · have hmem := mem_dependents.mp hj
      have hlt := Schedule.lt_of_mem_waitsOf hmem
      exact ⟨hlt, (h.isReleased_iff hlt (hcount.trans (if_pos hmem))).mp hrel⟩
    · exact hold hne (List.mem_append_right _ hj)
  · rintro ⟨hlt, hnone, hall⟩
    by_cases hmem : i ∈ s.progress.waitsOf j
    · exact .inl (.inr ⟨mem_dependents.mpr hmem,
        (h.isReleased_iff hlt (hcount.trans (if_pos hmem))).mpr ⟨hnone, hall⟩⟩)
    · -- a task that did not wait for the one that ended was ready or running before
      rw [Progress.outcome?_finish hl ha] at hnone
      split at hnone
      · cases hnone
      · next hne =>
        have hold : ∀ k ∈ s.progress.waitsOf j, s.progress.Succeeded k := fun k hk =>
          ((hsucc k).mp (hall k hk)).resolve_left fun heq => hmem (heq ▸ hk)
        rcases List.mem_append.mp ((h.active_iff j).mpr ⟨hlt, hnone, hold⟩) with hj | hj
        · exact .inl (.inl hj)
        · exact .inr ⟨hj, hne⟩

/-- A success of a running task keeps a schedule valid. -/
theorem Valid.finish_succeeded (h : s.Valid) (hi : i ∈ s.running) :
    (s.finish i .succeeded).Valid := by
  obtain ⟨hlt, hopen, hwaits⟩ := h.of_mem_running hi
  obtain ⟨a, ha⟩ := Progress.exists_asset? hlt
  have hl := h.tallied.length_eq
  rw [Schedule.finish_succeeded]
  constructor
  case tallied => exact h.tallied.move (.finish _ ha hopen)
  case waitsBack => simpa using h.waitsBack
  case known => simpa using h.known
  case waiting_eq =>
    intro j hj
    rw [Progress.tasks_finish] at hj
    simp only [List.getElem?_mapIdx, h.waiting_eq j hj, Option.map_some, Progress.waitsOf_finish,
      countP_open_finish hl ha hopen (h.nodup_waitsOf j), List.contains_iff_mem, mem_dependents]
  case nodup => exact h.nodup_released hi _
  case active_iff =>
    intro j
    simpa only [Progress.tasks_finish, Progress.waitsOf_finish] using
      h.active_finish_succeeded hi j
  case succeeded_of_waits =>
    intro j hj k hk
    rw [Progress.waitsOf_finish] at hk
    rw [Progress.succeeded_finish_iff hl ha] at hj ⊢
    rcases hj with rfl | hj
    · exact .inr (hwaits k hk)
    · exact .inr (h.succeeded_of_waits j hj k hk)
  case failed_of_waits =>
    intro j k hk hfailed
    rw [Progress.waitsOf_finish] at hk
    rw [Progress.failed_finish_iff hl ha hopen] at hfailed ⊢
    exact h.failed_of_waits j k hk hfailed

/-! ### Failing a task -/

section Failing

variable {message reason : String} {q : Progress}

/-- No task ends well by the failure of another one. -/
theorem Valid.succeeded_spread_iff (h : s.Valid) (hi : i ∈ s.running)
    (hs : (s.progress.finish i (.failed message)).Spread reason (s.dependents i).reverse q) :
    q.Succeeded j ↔ s.progress.Succeeded j := by
  obtain ⟨hlt, hopen, -⟩ := h.of_mem_running hi
  obtain ⟨a, ha⟩ := Progress.exists_asset? hlt
  rw [hs.succeeded_iff, Progress.Succeeded, Progress.outcome?_finish h.tallied.length_eq ha]
  split
  · next heq => simp [heq, Progress.Succeeded, hopen]
  · rfl

/-- No task that is ready or running waits for the one that failed. -/
theorem Valid.outcome?_spread_eq_none (h : s.Valid) (hi : i ∈ s.running)
    (hs : (s.progress.finish i (.failed message)).Spread reason (s.dependents i).reverse q)
    (hj : j ∈ s.ready ++ s.running) (hne : j ≠ i) : q.outcome? j = none := by
  obtain ⟨hlt, hopen, -⟩ := h.of_mem_running hi
  obtain ⟨a, ha⟩ := Progress.exists_asset? hlt
  obtain ⟨-, hnone, hall⟩ := (h.active_iff j).mp hj
  refine hs.outcome?_eq_none ?_ (fun hmem => ?_) fun k hk => ?_
  · rwa [Progress.outcome?_finish h.tallied.length_eq ha, if_neg hne]
  · have hsucc := hall i (mem_dependents.mp (List.mem_reverse.mp hmem))
    rw [Progress.Succeeded, hopen] at hsucc
    cases hsucc
  · rw [← hs.succeeded_iff, h.succeeded_spread_iff hi hs]
    exact hall k (by simpa using hk)

/-- The failure has reached all that wait for a failed task. -/
theorem Valid.failed_spread_of_waits (h : s.Valid) (hi : i ∈ s.running)
    (hs : (s.progress.finish i (.failed message)).Spread reason (s.dependents i).reverse q)
    {k : Nat} (hk : k ∈ s.progress.waitsOf j) (hfailed : q.Failed k) : q.Failed j := by
  obtain ⟨hlt, hopen, -⟩ := h.of_mem_running hi
  obtain ⟨a, ha⟩ := Progress.exists_asset? hlt
  have hnot : ¬ q.Succeeded j := by
    rw [h.succeeded_spread_iff hi hs]
    exact fun hj => hfailed.not_succeeded
      ((h.succeeded_spread_iff hi hs).mpr (h.succeeded_of_waits j hj k hk))
  suffices hfin : q.isFinished j = true from (Progress.isFinished_iff.mp hfin).resolve_left hnot
  rcases hs.outcome_or k with heq | ⟨hnone, heq⟩
  · rcases eq_or_ne k i with rfl | hne
    -- the task that failed itself: all that wait for it were put on the stack
    · exact hs.stack_finished j (List.mem_reverse.mpr (mem_dependents.mpr hk))
    · -- the task had failed before
      obtain ⟨m, hm⟩ := hfailed
      rw [heq, Progress.outcome?_finish h.tallied.length_eq ha, if_neg hne] at hm
      have hold := Progress.isFinished_iff.mpr (.inr (h.failed_of_waits j k hk ⟨m, hm⟩))
      exact Progress.isFinished_advance h.tallied (.head (.finish _ ha hopen) hs.advance) hold
  -- the task was failed on the way, and so were all that wait for it
  · exact hs.closed k hnone (by simp [Progress.isFinished, heq]) j (by simpa using hk)

/-- When a task has failed, the tasks that are ready and those that go on running are the old ones:
the failure has reached none of them. -/
theorem Valid.active_spread_iff (h : s.Valid) (hi : i ∈ s.running)
    (hs : (s.progress.finish i (.failed message)).Spread reason (s.dependents i).reverse q)
    (j : Nat) : j ∈ s.ready ++ s.running.filter (· != i) ↔ j < s.progress.tasks.length ∧
      q.outcome? j = none ∧ ∀ k ∈ s.progress.waitsOf j, s.progress.Succeeded k := by
  obtain ⟨hlt, hopen, -⟩ := h.of_mem_running hi
  obtain ⟨a, ha⟩ := Progress.exists_asset? hlt
  simp only [List.mem_append, List.mem_filter, bne_iff_ne]
  constructor
  · have hold : j ≠ i → j ∈ s.ready ++ s.running → j < s.progress.tasks.length ∧
        q.outcome? j = none ∧ ∀ k ∈ s.progress.waitsOf j, s.progress.Succeeded k := by
      intro hne hj
      obtain ⟨hlt, -, hall⟩ := (h.active_iff j).mp hj
      exact ⟨hlt, h.outcome?_spread_eq_none hi hs hj hne, hall⟩
    rintro (hj | ⟨hj, hne⟩)
    · exact hold (fun heq => (List.nodup_append.mp h.nodup).2.2 j hj i hi heq)
        (List.mem_append_left _ hj)
    · exact hold hne (List.mem_append_right _ hj)
  · rintro ⟨hlt, hnone, hall⟩
    have hnone := hs.outcome?_of_none hnone
    rw [Progress.outcome?_finish h.tallied.length_eq ha] at hnone
    split at hnone
    · cases hnone
    · next hne =>
      rcases List.mem_append.mp ((h.active_iff j).mpr ⟨hlt, hnone, hall⟩) with hj | hj
      · exact .inl hj
      · exact .inr ⟨hj, hne⟩

/-- A failure of a running task keeps a schedule valid. -/
theorem Valid.finish_failed (h : s.Valid) (hi : i ∈ s.running) :
    (s.finish i (.failed message)).Valid := by
  obtain ⟨hlt, hopen, -⟩ := h.of_mem_running hi
  obtain ⟨a, ha⟩ := Progress.exists_asset? hlt
  obtain ⟨q, hq, hs⟩ := Schedule.finish_failed message h.tallied ha hopen
  have htasks : q.tasks = s.progress.tasks :=
    (Progress.tasks_advance hs.advance).trans Progress.tasks_finish
  have hwaitsOf : ∀ j, q.waitsOf j = s.progress.waitsOf j := fun j =>
    (hs.waitsOf_eq j).trans Progress.waitsOf_finish
  have hsucc : ∀ j, q.Succeeded j ↔ s.progress.Succeeded j := fun j =>
    h.succeeded_spread_iff hi hs
  have hcond : ∀ j, (q.outcome? j != some .succeeded) =
      (s.progress.outcome? j != some .succeeded) := fun j => by
    rw [Bool.eq_iff_iff, bne_iff_ne, bne_iff_ne]
    exact not_congr (hsucc j)
  rw [hq]
  constructor
  case tallied => exact (h.tallied.move (.finish _ ha hopen)).advance hs.advance
  case waitsBack => exact htasks ▸ h.waitsBack
  case known =>
    intro j b hb
    exact h.known j b (by rwa [Progress.asset?, ← htasks])
  case waiting_eq =>
    intro j hj
    simp only [hcond, hwaitsOf]
    exact h.waiting_eq j (htasks ▸ hj)
  case nodup =>
    obtain ⟨hready, hrunning, hdisj⟩ := List.nodup_append.mp h.nodup
    exact List.nodup_append.mpr ⟨hready, hrunning.filter _, fun j hj k hk =>
      hdisj j hj k (List.mem_filter.mp hk).1⟩
  case active_iff =>
    intro j
    simp only [htasks, hwaitsOf, hsucc]
    exact h.active_spread_iff hi hs j
  case succeeded_of_waits =>
    intro j hj k hk
    rw [hwaitsOf] at hk
    rw [hsucc] at hj ⊢
    exact h.succeeded_of_waits j hj k hk
  case failed_of_waits =>
    intro j k hk hfailed
    rw [hwaitsOf] at hk
    exact h.failed_spread_of_waits hi hs hk hfailed

end Failing

/-- What becomes of the tasks when a running one ends: it has its outcome, and no other one gets an
outcome unless it fails because a task that it waits for has failed. -/
structure Ends (s : Schedule) (i : Nat) (o : Outcome) (t : Schedule) : Prop where
  running_eq : t.running = s.running.filter (· != i)
  known_eq : t.known = s.known
  advance : s.progress.Advance t.progress
  outcome?_self : t.progress.outcome? i = some o
  outcome?_or : ∀ j ≠ i, t.progress.outcome? j = s.progress.outcome? j ∨
    s.progress.outcome? j = none ∧ (∃ d ∈ s.progress.waitsOf j, t.progress.Failed d) ∧
      ∃ a, s.progress.asset? i = some a ∧
        t.progress.outcome? j = some (.failed s!"upstream '{a.text}' failed")

/-- What a running task leaves behind when it ends. -/
theorem Valid.ends_finish (h : s.Valid) (hi : i ∈ s.running) (o : Outcome) :
    s.Ends i o (s.finish i o) := by
  obtain ⟨hlt, hopen, -⟩ := h.of_mem_running hi
  obtain ⟨a, ha⟩ := Progress.exists_asset? hlt
  have hmove : s.progress.Move (s.progress.finish i o) := .finish _ ha hopen
  have hout : ∀ j, (s.progress.finish i o).outcome? j =
      if j = i then some o else s.progress.outcome? j := fun j =>
    Progress.outcome?_finish h.tallied.length_eq ha
  cases o with
  | succeeded =>
    rw [Schedule.finish_succeeded]
    exact ⟨rfl, rfl, .single hmove, by rw [hout, if_pos rfl], fun j hj =>
      .inl (by rw [hout, if_neg hj])⟩
  | failed message =>
    obtain ⟨q, hq, hs⟩ := Schedule.finish_failed message h.tallied ha hopen
    have hself := (h.tallied.move hmove).outcome?_advance hs.advance ((hout i).trans (if_pos rfl))
    rw [hq]
    refine ⟨rfl, rfl, .head hmove hs.advance, hself, fun j hj => ?_⟩
    rcases hs.outcome_or j with heq | ⟨hnone, heq⟩
    · exact .inl (by rw [heq, hout, if_neg hj])
    -- the task was failed on the way: it waits for the one that ended or for another such task
    · refine .inr ⟨by rwa [hout, if_neg hj] at hnone, ?_, a, ha, heq⟩
      rcases hs.cause j hnone (by simp [Progress.isFinished, heq]) with hmem | ⟨d, hd, hdnone, hdfin⟩
      · exact ⟨i, mem_dependents.mp (List.mem_reverse.mp hmem), message, hself⟩
      · refine ⟨d, by simpa using hd, ?_⟩
        refine (Progress.isFinished_iff.mp hdfin).resolve_left fun hsucc => ?_
        rw [hs.succeeded_iff, Progress.Succeeded, hdnone] at hsucc
        cases hsucc

/-- If no task may start and none is running, all tasks have an outcome: one whose predecessors all
have one would be ready if they ended well, and would have failed if they did not. -/
theorem Valid.isFinished_of_idle (h : s.Valid) (hready : s.ready = []) (hrunning : s.running = [])
    (i : Nat) (hi : i < s.progress.tasks.length) : s.progress.isFinished i = true := by
  induction i using Nat.strongRecOn with
  | ind i ih =>
    by_contra hopen
    rw [Bool.not_eq_true, Progress.not_isFinished_iff] at hopen
    have hall : ∀ j ∈ s.progress.waitsOf i, s.progress.Succeeded j := by
      intro j hj
      have hlt := h.lt_of_mem_waitsOf hj
      refine (Progress.isFinished_iff.mp (ih j hlt (Nat.lt_trans hlt hi))).resolve_right fun hfail => ?_
      obtain ⟨m, hm⟩ := h.failed_of_waits i j hj hfail
      rw [hopen] at hm
      cases hm
    have hactive := (h.active_iff i).mpr ⟨hi, hopen, hall⟩
    rw [hready, hrunning] at hactive
    cases hactive

/-- Nothing depends on what has been recorded. -/
theorem Valid.withRecorder (h : s.Valid) (r : Recorder) :
    { s with progress := { s.progress with recorder := r } }.Valid :=
  { h with
    tallied := { h.tallied with }
    waiting_eq := h.waiting_eq
    active_iff := h.active_iff
    succeeded_of_waits := h.succeeded_of_waits
    failed_of_waits := h.failed_of_waits }

/-- **The scheduler keeps to its rules** when a running task ends, whatever its outcome. -/
theorem Valid.finish {o : Outcome} (h : s.Valid) (hi : i ∈ s.running) : (s.finish i o).Valid := by
  cases o with
  | succeeded => exact h.finish_succeeded hi
  | failed message => exact h.finish_failed hi

end Schedule

end AssetFlow
