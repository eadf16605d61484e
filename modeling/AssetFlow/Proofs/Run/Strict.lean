import AssetFlow.Proofs.Run.Execution
import AssetFlow.Run.Strict

/-!
# Strict moves make no slip

Where a scheduler keeps to its rules, its strict moves come to an end, and they come to what the
plain moves come to. A task that is finished has no outcome and is still counted; a task that is
released waits for at least the task that releases it, and is released once as it stands once in the
table; a failure finds all that it spreads to in the table, and the turns that it is given are
enough.

## Main definitions

- `Progress.Counted`: the counters of the assets are right
- `RunTables.Serves`: the tables hold what a scheduler looks up

## Main statements

- `Progress.Counted.advance`: the counters are right throughout
- `RunTables.exists_build`, `Execution.exists_beginStrictly`: a run begins without a slip
- `Schedule.Valid.startStrictly_eq`, `Schedule.Valid.finishStrictly_eq`: it goes on without one
-/

namespace AssetFlow

open Strict (entry lower)

namespace Strict

variable {α β : Type} {row : List α} {x : α} {i n : Nat}

/-- A move that went well hands its result on. -/
theorem ok_bind (x : α) (f : α → Except Slip β) : (Except.ok x >>= f) = f x :=
  rfl

/-- Reading an entry that is there is no slip. -/
theorem entry_eq_ok (h : row[i]? = some x) : entry row i = .ok x := by
  simp only [entry, h]

/-- A counter above zero can be lowered. -/
theorem lower_eq_ok (h : 0 < n) : lower n = .ok (n - 1) := by
  cases n with
  | zero => cases h
  | succ n => rfl

end Strict

/-! ### Counters -/

namespace Progress

variable {p q : Progress} {i : Nat} {a : AssetName} {o : Outcome}

/-- There is one counter for each asset with tasks, and it shows how many of them have no
outcome. -/
def Counted (p : Progress) : Prop :=
  p.remaining = (p.tasks.map (·.id.asset)).eraseDups.map fun a => (a, p.unfinishedOf a)

/-- The counters are right before the first task starts. -/
theorem counted_begin (tasks : List PlannedTask) (r : Recorder) : (begin tasks r).Counted := by
  refine List.map_congr_left fun a _ => ?_
  rw [unfinishedOf_begin]

/-- Starting a task leaves the number of unfinished tasks of every asset alone. -/
theorem unfinishedOf_start (p : Progress) (i : Nat) (a : AssetName) :
    (p.start i).unfinishedOf a = p.unfinishedOf a := by
  simp only [unfinishedOf, isFinished, tasks_start, asset?_start, outcome?_start]

/-- A move of the progress keeps the counters right. -/
theorem Counted.move (hc : p.Counted) (h : p.Tallied) (hm : p.Move q) : q.Counted := by
  cases hm with
  | start => simpa only [Counted, remaining_start, tasks_start, unfinishedOf_start] using hc
  | @finish i a o ha hopen =>
    rw [Counted, remaining_finish ha, hc, List.map_map, tasks_finish]
    refine List.map_congr_left fun b _ => ?_
    rw [unfinishedOf_finish h.length_eq ha hopen, Function.comp_apply]
    by_cases hb : b = a <;> simp [hb]

/-- Advances of the progress keep the counters right. -/
theorem Counted.advance (hc : p.Counted) (h : p.Tallied) (hpq : p.Advance q) : q.Counted := by
  induction hpq with
  | refl => exact hc
  | tail hpq hm ih => exact ih.move (h.advance hpq) hm

/-- The counter of an asset is not zero as long as one of its tasks has no outcome. -/
theorem Counted.lookup_remaining (hc : p.Counted) (ha : p.asset? i = some a)
    (hopen : p.outcome? i = none) :
    p.remaining.lookup a = some (p.unfinishedOf a) ∧ 0 < p.unfinishedOf a := by
  obtain ⟨t, ht, rfl⟩ := Option.map_eq_some_iff.mp ha
  have hmem : t.id.asset ∈ (p.tasks.map (·.id.asset)).eraseDups :=
    List.mem_eraseDups.mpr (List.mem_map_of_mem (List.mem_of_getElem? ht))
  rw [hc, lookup_map_pair, if_pos hmem]
  exact ⟨rfl, unfinishedOf_pos_iff.mpr ⟨i, ha, hopen⟩⟩

/-- An asset has only one counter, the one that is looked up. -/
theorem Counted.map_remaining (hc : p.Counted) (a : AssetName) :
    (p.remaining.map fun (b, m) => if b == a then (b, p.unfinishedOf a - 1) else (b, m)) =
      p.remaining.map fun (b, m) => if b == a then (b, m - 1) else (b, m) := by
  rw [hc, List.map_map, List.map_map]
  refine List.map_congr_left fun b _ => ?_
  by_cases hb : b = a <;> simp [hb]

theorem getElem?_outcomes (hi : i < p.outcomes.length) : p.outcomes[i]? = some (p.outcome? i) := by
  simp [outcome?, hi]

/-- Starting a task of the plan is no slip and does what the unchecked start does. -/
theorem startStrictly_eq (ha : p.asset? i = some a) : p.startStrictly i = .ok (p.start i) := by
  obtain ⟨t, ht, rfl⟩ := Option.map_eq_some_iff.mp ha
  rw [startStrictly, Strict.entry_eq_ok ht, Strict.ok_bind]
  simp only [start, ha]
  rfl

/-- A task without an outcome gets one without a slip. -/
theorem Counted.finishStrictly_eq (hc : p.Counted) (h : p.Tallied) (ha : p.asset? i = some a)
    (hopen : p.outcome? i = none) : p.finishStrictly i o = .ok (p.finish i o) := by
  obtain ⟨hlookup, hpos⟩ := hc.lookup_remaining ha hopen
  have hout : p.outcomes[i]? = some none :=
    hopen ▸ getElem?_outcomes (h.length_eq ▸ asset?_lt ha)
  obtain ⟨t, ht, rfl⟩ := Option.map_eq_some_iff.mp ha
  simp only [finishStrictly, Strict.entry_eq_ok ht, Strict.entry_eq_ok hout, Strict.ok_bind,
    hlookup, Strict.lower_eq_ok hpos, hc.map_remaining]
  simp only [finish, ha, h.remaining_eq]
  split <;> rfl

end Progress

/-! ### Tables -/

namespace RunTables

variable {tables : RunTables} {s t : Schedule} {rows : List (List Nat)} {ws : List (Nat × Nat)}

/-- Each pair adds its second task to the row of its first one. -/
theorem foldlM_addDependent (hlt : ∀ w ∈ ws, w.1 < rows.length) : ws.foldlM addDependent rows =
    .ok (rows.mapIdx fun i row => row ++ (ws.filter (·.1 == i)).map (·.2)) := by
  induction ws generalizing rows with
  | nil =>
    have hsame : rows.mapIdx (fun _ row => row ++ []) = rows := by
      apply List.ext_getElem?
      simp
    simp only [List.foldlM_nil, List.filter_nil, List.map_nil, hsame]
    rfl
  | cons w ws ih =>
    obtain ⟨d, k⟩ := w
    have hd : d < rows.length := hlt (d, k) (List.mem_cons_self ..)
    rw [List.foldlM_cons, addDependent, Strict.entry_eq_ok (List.getElem?_eq_getElem hd),
      Strict.ok_bind]
    show ws.foldlM addDependent (rows.set d (rows[d] ++ [k])) = _
    rw [ih fun w hw => by simpa using hlt w (List.mem_cons_of_mem _ hw)]
    congr 1
    apply List.ext_getElem?
    intro i
    simp only [List.getElem?_mapIdx, List.getElem?_set, List.filter_cons]
    rcases eq_or_ne d i with rfl | hne
    · simp [hd]
    · simp [hne]

/-- A task that waits for another one once gives one pair, so that the pairs of a task give those
that wait for it. -/
theorem map_filter_waits {tasks : List PlannedTask} (hnd : ∀ t ∈ tasks, t.waitsFor.Nodup)
    (i : Nat) :
    ((waits tasks).filter (·.1 == i)).map (·.2) =
      (tasks.zipIdx.filter fun (t, _) => t.waitsFor.contains i).map (·.2) := by
  have hone : ∀ (t : PlannedTask) (k : Nat), t.waitsFor.Nodup →
      ((t.waitsFor.map (·, k)).filter (·.1 == i)).map (·.2) =
        if t.waitsFor.contains i then [k] else [] := by
    intro t k ht
    rw [List.filter_map, List.map_map]
    simp only [Function.comp_def, List.filter_beq, List.map_replicate, ht.count,
      List.contains_iff_mem]
    split <;> rfl
  rw [waits]
  generalize 0 = n
  induction tasks generalizing n with
  | nil => rfl
  | cons t tasks ih =>
    rw [List.zipIdx_cons, List.flatMap_cons, List.filter_append, List.map_append,
      ih fun u hu => hnd u (List.mem_cons_of_mem _ hu), List.filter_cons,
      hone t n (hnd t (List.mem_cons_self ..))]
    split <;> rfl

/-- The tables hold what a scheduler looks up. -/
structure Serves (tables : RunTables) (s : Schedule) : Prop where
  dependents_eq : ∀ i < s.progress.tasks.length, tables.dependents[i]? = some (s.dependents i)
  hasAsset : ∀ t ∈ s.progress.tasks, tables.assets.any (·.name == t.id.asset) = true

/-- Tables that serve a state serve every state with the same tasks. -/
theorem Serves.of_tasks_eq (h : tables.Serves s) (heq : t.progress.tasks = s.progress.tasks) :
    tables.Serves t where
  dependents_eq i hi := by
    rw [Schedule.dependents, heq]
    exact h.dependents_eq i (heq ▸ hi)
  hasAsset u hu := h.hasAsset u (heq ▸ hu)

variable {p : Pipeline} {c : RunConfig} {previous : Option RunState} {plan : RunPlan}

/-- The tables for a plan are made without a slip. -/
theorem exists_build (hplan : RunPlan.build p c previous = .ok plan)
    (hs : s.progress.tasks = plan.tasks) :
    ∃ tables, build p plan = .ok tables ∧ tables.Serves s := by
  have hback := RunPlan.waitsBack_of_build hplan
  have hnd : ∀ t ∈ plan.tasks, t.waitsFor.Nodup := by
    intro t ht
    obtain ⟨i, hi⟩ := List.mem_iff_getElem?.mp ht
    exact (hback i t hi).1
  have hlt : ∀ w ∈ waits plan.tasks, w.1 < (plan.tasks.map fun _ => ([] : List Nat)).length := by
    rintro ⟨j, i⟩ hw
    simp only [waits, List.mem_flatMap, Prod.exists, List.mem_zipIdx_iff_getElem?, List.mem_map,
      Prod.mk.injEq] at hw
    obtain ⟨t, k, ht, d, hd, rfl, rfl⟩ := hw
    have hk := (List.getElem?_eq_some_iff.mp ht).1
    rw [List.length_map]
    exact Nat.lt_trans ((hback k t ht).2 d hd) hk
  rw [build, foldlM_addDependent hlt]
  refine ⟨_, rfl, fun i hi => ?_, fun t ht => ?_⟩
  · rw [hs] at hi
    simp only [List.getElem?_mapIdx, List.getElem?_map, List.getElem?_eq_getElem hi,
      Option.map_some, List.nil_append, map_filter_waits hnd, Schedule.dependents, hs]
  · rw [hs] at ht
    obtain ⟨a, ha, hname⟩ := Pipeline.asset?_of_mem_names (RunPlan.asset_mem_names hplan ht)
    obtain ⟨i, hi⟩ := List.mem_iff_getElem?.mp ht
    have hsched := RunPlan.mem_scheduled.mpr ⟨i, t, hi, rfl⟩
    exact List.any_eq_true.mpr ⟨a, List.mem_filterMap.mpr ⟨_, hsched, ha⟩, beq_iff_eq.mpr hname⟩

end RunTables

/-! ### Moves -/

namespace Schedule

variable {tables : RunTables} {s : Schedule} {i n : Nat} {o : Outcome} {reason : String}

/-- The next task is handed over without a slip. -/
theorem Valid.startStrictly_eq (h : s.Valid) (ht : tables.Serves s) :
    s.startStrictly tables = .ok s.start? := by
  cases hready : s.ready with
  | nil => simp only [startStrictly, start?, hready]
  | cons i rest =>
    have hlt := ((h.active_iff i).mp (by simp [hready])).1
    obtain ⟨a, ha⟩ := Progress.exists_asset? hlt
    have htask := List.getElem?_eq_getElem hlt
    rw [h.start?_eq hready]
    simp only [startStrictly, hready, Strict.entry_eq_ok htask, Strict.ok_bind,
      ht.hasAsset _ (List.getElem_mem hlt), Progress.startStrictly_eq ha]
    rfl

/-- Releasing a task that waits for something is no slip. -/
theorem releaseStrictly_eq (hwaiting : s.waiting[i]? = some n) (hpos : 0 < n)
    (hi : i < s.progress.outcomes.length) : s.releaseStrictly i = .ok (s.release i) := by
  have hout := Strict.entry_eq_ok (Progress.getElem?_outcomes hi)
  simp only [releaseStrictly, release, Strict.entry_eq_ok hwaiting, Strict.lower_eq_ok hpos,
    Strict.ok_bind, hout, hwaiting, Option.getD_some, Progress.isFinished]
  by_cases hlast : n - 1 = 0
  · cases hdone : s.progress.outcome? i <;> simp [hlast, pure, Except.pure]
  · simp [hlast, pure, Except.pure]

/-- Tasks that wait for something are released without a slip. -/
theorem foldlM_releaseStrictly {ds : List Nat} (hnd : ds.Nodup)
    (hwaiting : ∀ d ∈ ds, ∃ n, s.waiting[d]? = some n ∧ 0 < n)
    (hlt : ∀ d ∈ ds, d < s.progress.outcomes.length) :
    ds.foldlM releaseStrictly s = .ok (ds.foldl release s) := by
  induction ds generalizing s with
  | nil => rfl
  | cons d ds ih =>
    obtain ⟨hd, hnd⟩ := List.nodup_cons.mp hnd
    obtain ⟨n, hn, hpos⟩ := hwaiting d (List.mem_cons_self ..)
    rw [List.foldlM_cons, releaseStrictly_eq hn hpos (hlt d (List.mem_cons_self ..)),
      Strict.ok_bind, List.foldl_cons]
    refine ih hnd (fun e he => ?_) fun e he => hlt e (List.mem_cons_of_mem _ he)
    -- releasing a task leaves what the others wait for as it is
    have hne : d ≠ e := fun heq => hd (heq ▸ he)
    simpa only [release, List.getElem?_set_ne hne] using hwaiting e (List.mem_cons_of_mem _ he)

/-- A failure spreads without a slip, and the turns that it is given are enough. -/
theorem failAllStrictly_eq {fuel : Nat} {stack : List Nat} (h : s.progress.Tallied)
    (hc : s.progress.Counted) (ht : tables.Serves s)
    (hstack : ∀ d ∈ stack, d < s.progress.tasks.length)
    (hfuel : stack.length + s.openWaits ≤ fuel) :
    failAllStrictly tables s reason fuel stack = .ok (s.failAll reason fuel stack) := by
  induction fuel generalizing s stack with
  | zero =>
    obtain rfl : stack = [] := List.eq_nil_of_length_eq_zero (by omega)
    rfl
  | succ fuel ih =>
    match stack with
    | [] => rfl
    | i :: stack =>
      have hi := hstack i (List.mem_cons_self ..)
      have hstack : ∀ d ∈ stack, d < s.progress.tasks.length := fun d hd =>
        hstack d (List.mem_cons_of_mem i hd)
      obtain ⟨a, ha⟩ := Progress.exists_asset? hi
      have hout := Strict.entry_eq_ok (Progress.getElem?_outcomes (h.length_eq ▸ hi))
      rw [List.length_cons] at hfuel
      rw [failAllStrictly, failAll, hout, Strict.ok_bind, Progress.isFinished]
      cases hopen : s.progress.outcome? i with
      | some o => exact ih h hc ht hstack (by omega)
      | none =>
        have hmove : s.progress.Move (s.progress.finish i (.failed reason)) := .finish _ ha hopen
        have hless := openWaits_finish (o := .failed reason) h ha hopen
        simp only [hc.finishStrictly_eq h ha hopen, Strict.entry_eq_ok (ht.dependents_eq i hi),
          Strict.ok_bind]
        refine ih (h.move hmove) (hc.move h hmove) (ht.of_tasks_eq Progress.tasks_finish) ?_ ?_
        · rw [Progress.tasks_finish]
          exact lt_of_mem_pushed hstack
        · rw [List.length_append, List.length_reverse]
          omega

/-- A task that waits for one that has not ended well has something to wait for. -/
theorem Valid.exists_waiting {d : Nat} (h : s.Valid) (hd : i ∈ s.progress.waitsOf d)
    (hopen : s.progress.outcome? i = none) : ∃ n, s.waiting[d]? = some n ∧ 0 < n := by
  refine ⟨_, h.waiting_eq d (Schedule.lt_of_mem_waitsOf hd), List.countP_pos_iff.mpr ⟨i, hd, ?_⟩⟩
  simp [hopen]

/-- A running task ends without a slip. -/
theorem Valid.finishStrictly_eq (h : s.Valid) (hc : s.progress.Counted) (ht : tables.Serves s)
    (hi : i ∈ s.running) : s.finishStrictly tables i o = .ok (s.finish i o) := by
  obtain ⟨hlt, hopen, -⟩ := h.of_mem_running hi
  obtain ⟨a, ha⟩ := Progress.exists_asset? hlt
  have htask := List.getElem?_eq_getElem hlt
  have hasset : s.progress.tasks[i].id.asset = a := by
    simpa [Progress.asset?, htask] using ha
  have hmove : s.progress.Move (s.progress.finish i o) := .finish o ha hopen
  have hdeps : { s with
      running := s.running.filter (· != i)
      progress := s.progress.finish i o }.dependents i = s.dependents i := by
    simp only [dependents, Progress.tasks_finish]
  have hdependents : ∀ d ∈ s.dependents i, d < (s.progress.finish i o).tasks.length := by
    intro d hd
    rw [Progress.tasks_finish]
    exact lt_of_mem_dependents hd
  have hfirst := hc.finishStrictly_eq (o := o) h.tallied ha hopen
  have hrow := Strict.entry_eq_ok (ht.dependents_eq i hlt)
  cases o with
  | succeeded =>
    simp only [finishStrictly, Schedule.finish, Strict.entry_eq_ok htask, hfirst, hrow,
      Strict.ok_bind, hdeps]
    refine foldlM_releaseStrictly (nodup_dependents s i) (fun d hd => ?_) fun d hd => ?_
    · exact h.exists_waiting (mem_dependents.mp hd) hopen
    · rw [(h.tallied.move hmove).length_eq]
      exact hdependents d hd
  | failed message =>
    simp only [finishStrictly, Schedule.finish, Strict.entry_eq_ok htask, hfirst, hrow,
      Strict.ok_bind, hdeps, Progress.asset?_finish, ha, hasset]
    refine failAllStrictly_eq (h.tallied.move hmove) (hc.move h.tallied hmove)
      (RunTables.Serves.of_tasks_eq ht Progress.tasks_finish)
      (fun d hd => hdependents d (List.mem_reverse.mp hd)) ?_
    rw [List.length_reverse, ← hdeps]
    exact length_dependents_add_openWaits_le _ i

/-- Asking which tasks of the plan wait for nothing is no slip. -/
theorem readyAmong_eq {waiting places : List Nat} (hlt : ∀ i ∈ places, i < waiting.length) :
    readyAmong waiting places = .ok (places.filter fun i => waiting[i]? == some 0) := by
  suffices hall : ∀ ready : List Nat, places.foldlM (fun ready i => do
      let n ← entry waiting i
      return if n == 0 then ready ++ [i] else ready) ready =
        .ok (ready ++ places.filter fun i => waiting[i]? == some 0) from hall []
  induction places with
  | nil =>
    intro ready
    rw [List.filter_nil, List.append_nil]
    rfl
  | cons i places ih =>
    intro ready
    have hi : i < waiting.length := hlt i (List.mem_cons_self ..)
    have hentry := List.getElem?_eq_getElem hi
    rw [List.foldlM_cons, Strict.entry_eq_ok hentry, Strict.ok_bind, pure_bind,
      ih fun j hj => hlt j (List.mem_cons_of_mem _ hj), List.filter_cons, hentry]
    by_cases hnone : waiting[i] = 0 <;> simp [hnone]

end Schedule

namespace Execution

variable {p : Pipeline} {c : RunConfig} {previous : Option RunState} {plan : RunPlan}

/-- A run of a plan on its pipeline begins without a slip. -/
theorem exists_beginStrictly (hplan : RunPlan.build p c previous = .ok plan) (r : Recorder) :
    ∃ tables, beginStrictly p plan r = .ok (tables, begin p plan r) ∧
      tables.Serves (begin p plan r).schedule := by
  obtain ⟨tables, hbuild, hserves⟩ := RunTables.exists_build hplan
    (s := (begin p plan r).schedule) rfl
  have hplaces : ∀ i ∈ List.range plan.tasks.length,
      i < (plan.tasks.map (·.waitsFor.length)).length := fun i hi => by simpa using hi
  refine ⟨tables, ?_, hserves⟩
  simp only [beginStrictly, hbuild, Strict.ok_bind, Schedule.readyAmong_eq hplaces]
  rfl

end Execution

end AssetFlow
