import AssetFlow.Run.Scheduler
import Mathlib.Data.List.Nodup
import Mathlib.Logic.Relation

/-!
# How the outcomes of tasks add up

In the course of a run tasks are started and finished, one after another, and a task is finished at
most once. Whatever the order, the number of tasks of an asset that are left is the number of tasks
without an outcome, and the asset has an error if and only if one of its tasks failed.

## Main definitions

- `Progress.Succeeded`, `Progress.Failed`: how a task ended
- `Progress.Move`: a task is started or finished
- `Progress.Tallied`: the accounts of a progress are right

## Main statements

- `Progress.tallied_begin`, `Progress.Tallied.advance`: the accounts are right throughout
- `Progress.Tallied.outcome?_advance`: outcomes are final
-/

namespace AssetFlow

/-- A condition holds once less in a row without repetition if it is given up at one place. -/
theorem countP_and_ne_add_one {α : Type} [DecidableEq α] {l : List α} {p : α → Bool} {a : α}
    (hnd : l.Nodup) (ha : a ∈ l) (hp : p a = true) :
    l.countP (fun b => p b && b != a) + 1 = l.countP p := by
  induction l with
  | nil => cases ha
  | cons b l ih =>
    obtain ⟨hb, hl⟩ := List.nodup_cons.mp hnd
    rw [List.countP_cons, List.countP_cons]
    rcases List.mem_cons.mp ha with rfl | ha
    · have hrest : l.countP (fun b => p b && b != a) = l.countP p := by
        refine List.countP_congr fun b hmem => ?_
        have hne : b ≠ a := fun heq => hb (heq ▸ hmem)
        simp [hne]
      simp [hrest, hp]
    · have hne : b ≠ a := fun heq => hb (heq ▸ ha)
      have := ih hl ha
      simp only [hne, bne_iff_ne, ne_eq, not_false_eq_true, Bool.and_eq_true, and_true]
      omega

namespace Progress

variable {p q : Progress} {i j : Nat} {a b : AssetName} {o : Outcome}

/-- The places of the tasks that a task waits for. -/
def waitsOf (p : Progress) (i : Nat) : List Nat :=
  ((p.tasks[i]?).map PlannedTask.waitsFor).getD []

/-- A task ended well. -/
def Succeeded (p : Progress) (i : Nat) : Prop :=
  p.outcome? i = some .succeeded

/-- A task failed. -/
def Failed (p : Progress) (i : Nat) : Prop :=
  ∃ message, p.outcome? i = some (.failed message)

/-- A task is done with if it has succeeded or failed. -/
theorem isFinished_iff : p.isFinished i = true ↔ p.Succeeded i ∨ p.Failed i := by
  simp only [isFinished, Succeeded, Failed]
  rcases p.outcome? i with _ | _ | message <;> simp

theorem not_isFinished_iff : p.isFinished i = false ↔ p.outcome? i = none := by
  simp [isFinished]

/-- No task has both succeeded and failed. -/
theorem Failed.not_succeeded (h : p.Failed i) : ¬ p.Succeeded i := by
  obtain ⟨message, hmessage⟩ := h
  simp [Succeeded, hmessage]

theorem asset?_lt (h : p.asset? i = some a) : i < p.tasks.length := by
  obtain ⟨t, ht, -⟩ := Option.map_eq_some_iff.mp h
  exact (List.getElem?_eq_some_iff.mp ht).1

/-- Each task works on an asset. -/
theorem exists_asset? (h : i < p.tasks.length) : ∃ a, p.asset? i = some a :=
  ⟨_, by rw [asset?, List.getElem?_eq_getElem h]; rfl⟩

/-- The number of tasks of an asset without an outcome, counted one by one. -/
def unfinishedOf (p : Progress) (a : AssetName) : Nat :=
  (List.range p.tasks.length).countP fun i => p.asset? i == some a && !p.isFinished i

/-- An asset has unfinished tasks if one of them has no outcome. -/
theorem unfinishedOf_pos_iff :
    0 < p.unfinishedOf a ↔ ∃ i, p.asset? i = some a ∧ p.outcome? i = none := by
  simp only [unfinishedOf, List.countP_pos_iff, List.mem_range, Bool.and_eq_true, beq_iff_eq,
    Bool.not_eq_true', not_isFinished_iff]
  constructor
  · rintro ⟨i, -, h⟩
    exact ⟨i, h⟩
  · rintro ⟨i, h⟩
    exact ⟨i, asset?_lt h.1, h⟩

/-- The accounts of a progress are right. -/
structure Tallied (p : Progress) : Prop where
  length_eq : p.outcomes.length = p.tasks.length
  remaining_eq : ∀ a, p.remainingOf a = p.unfinishedOf a
  error_iff : ∀ a, (p.error? a).isSome = true ↔ ∃ i, p.asset? i = some a ∧ p.Failed i

/-- A task without an outcome is started, or it is finished. -/
inductive Move : Progress → Progress → Prop
  | start {p : Progress} {i : Nat} {a : AssetName} :
    p.asset? i = some a → p.outcome? i = none → Move p (p.start i)
  | finish {p : Progress} {i : Nat} {a : AssetName} (o : Outcome) :
    p.asset? i = some a → p.outcome? i = none → Move p (p.finish i o)

/-- Tasks are started and finished one after another. -/
abbrev Advance : Progress → Progress → Prop :=
  Relation.ReflTransGen Move

/-! ### Starting and finishing a task -/

@[simp] theorem tasks_start : (p.start i).tasks = p.tasks := by
  simp only [start]
  split <;> rfl

@[simp] theorem outcomes_start : (p.start i).outcomes = p.outcomes := by
  simp only [start]
  split <;> rfl

@[simp] theorem remaining_start : (p.start i).remaining = p.remaining := by
  simp only [start]
  split <;> rfl

@[simp] theorem errors_start : (p.start i).errors = p.errors := by
  simp only [start]
  split <;> rfl

/-- When a task starts, its asset is recorded as running. -/
theorem recorder_start (h : p.asset? i = some a) :
    (p.start i).recorder = p.recorder.record a.text .running := by
  simp only [start, h]

@[simp] theorem tasks_finish : (p.finish i o).tasks = p.tasks := by
  simp only [finish]
  split
  · rfl
  · split <;> rfl

/-- The end of a task gives it its outcome. -/
theorem outcomes_finish (h : p.asset? i = some a) :
    (p.finish i o).outcomes = p.outcomes.set i (some o) := by
  simp only [finish, h]
  split <;> rfl

/-- The end of a task lowers the counter of its asset. -/
theorem remaining_finish (h : p.asset? i = some a) : (p.finish i o).remaining =
    p.remaining.map fun (b, n) => if b == a then (b, n - 1) else (b, n) := by
  simp only [finish, h]
  split <;> rfl

@[simp] theorem asset?_finish : (p.finish i o).asset? j = p.asset? j := by
  simp only [asset?, tasks_finish]

@[simp] theorem waitsOf_finish : (p.finish i o).waitsOf j = p.waitsOf j := by
  simp only [waitsOf, tasks_finish]

@[simp] theorem asset?_start : (p.start i).asset? j = p.asset? j := by
  simp only [asset?, tasks_start]

@[simp] theorem waitsOf_start : (p.start i).waitsOf j = p.waitsOf j := by
  simp only [waitsOf, tasks_start]

@[simp] theorem outcome?_start : (p.start i).outcome? j = p.outcome? j := by
  simp only [outcome?, outcomes_start]

@[simp] theorem remainingOf_start : (p.start i).remainingOf b = p.remainingOf b := by
  simp only [remainingOf, remaining_start]

@[simp] theorem error?_start : (p.start i).error? b = p.error? b := by
  simp only [error?, errors_start]

/-- The end of a task gives this task an outcome and no other one. -/
theorem outcome?_finish (hl : p.outcomes.length = p.tasks.length) (h : p.asset? i = some a) :
    (p.finish i o).outcome? j = if j = i then some o else p.outcome? j := by
  have hi : i < p.outcomes.length := hl ▸ asset?_lt h
  simp only [outcome?, outcomes_finish h, List.getElem?_set]
  by_cases hj : j = i
  · simp [hj, hi]
  · simp [hj, Ne.symm hj]

/-- Once a task has ended well, it is one more that has. -/
theorem succeeded_finish_iff (hl : p.outcomes.length = p.tasks.length) (h : p.asset? i = some a) :
    (p.finish i .succeeded).Succeeded j ↔ j = i ∨ p.Succeeded j := by
  rw [Succeeded, outcome?_finish hl h]
  split
  · next heq => simp [heq]
  · next hne => simp [hne, Succeeded]

/-- A task that ends well makes no task fail. -/
theorem failed_finish_iff (hl : p.outcomes.length = p.tasks.length) (h : p.asset? i = some a)
    (hopen : p.outcome? i = none) : (p.finish i .succeeded).Failed j ↔ p.Failed j := by
  rw [Failed, outcome?_finish hl h]
  split
  · next heq => simp [heq, Failed, hopen]
  · rfl

/-- Once a task has failed, it is one more that has. -/
theorem failed_finish_failed_iff {message : String} (hl : p.outcomes.length = p.tasks.length)
    (h : p.asset? i = some a) : (p.finish i (.failed message)).Failed j ↔ j = i ∨ p.Failed j := by
  rw [Failed, outcome?_finish hl h]
  split
  · next heq => simp [heq]
  · next hne => simp [hne, Failed]

/-- Once a task has an outcome, its asset has one task less without. -/
theorem unfinishedOf_finish (hl : p.outcomes.length = p.tasks.length) (ha : p.asset? i = some a)
    (hopen : p.outcome? i = none) (b : AssetName) :
    (p.finish i o).unfinishedOf b =
      if b = a then p.unfinishedOf b - 1 else p.unfinishedOf b := by
  have hfin : ∀ j, (!(p.finish i o).isFinished j) = (!p.isFinished j && j != i) := by
    intro j
    rw [isFinished, isFinished, outcome?_finish hl ha]
    by_cases hj : j = i <;> simp [hj]
  simp only [unfinishedOf, hfin, tasks_finish, asset?_finish, ← Bool.and_assoc]
  split
  · next hb =>
    subst hb
    have hmem : i ∈ List.range p.tasks.length := List.mem_range.mpr (asset?_lt ha)
    have hdrop := countP_and_ne_add_one (p := fun j => p.asset? j == some b && !p.isFinished j)
      List.nodup_range hmem (by simp [ha, not_isFinished_iff.mpr hopen])
    omega
  · next hb =>
    refine List.countP_congr fun j _ => ?_
    by_cases hj : j = i
    · subst hj
      simp [ha, Ne.symm hb]
    · simp [hj]

/-- Lowering the number of one name leaves those of all others as they are. -/
theorem lookup_map_lower (l : List (AssetName × Nat)) (a b : AssetName) :
    (l.map fun (c, n) => if c == a then (c, n - 1) else (c, n)).lookup b =
      (l.lookup b).map fun n => if b = a then n - 1 else n := by
  induction l with
  | nil => rfl
  | cons e rest ih =>
    obtain ⟨c, n⟩ := e
    by_cases hb : b = c
    · subst hb
      by_cases ha : b = a <;> simp [ha]
    · have hne : (b == c) = false := beq_eq_false_iff_ne.mpr hb
      by_cases ha : c = a
      · subst ha
        simpa [List.lookup_cons, hne] using ih
      · simpa [List.lookup_cons, hne, ha] using ih

/-- The end of a task leaves its asset with one task less, and all others with as many. -/
theorem remainingOf_finish (h : p.asset? i = some a) : (p.finish i o).remainingOf b =
    if b = a then p.remainingOf b - 1 else p.remainingOf b := by
  simp only [remainingOf, remaining_finish h, lookup_map_lower]
  cases p.remaining.lookup b with
  | none => simp
  | some n => split <;> rfl

/-- The end of a task adds a message if it failed and its asset has none. -/
theorem errors_finish (h : p.asset? i = some a) : (p.finish i o).errors =
    match o with
    | .failed message => if (p.error? a).isSome then p.errors else p.errors ++ [(a, message)]
    | .succeeded => p.errors := by
  simp only [finish, h]
  split <;> rfl

/-- The first message of an asset stays. -/
theorem error?_finish (h : p.asset? i = some a) : (p.finish i o).error? b =
    match o with
    | .failed message => if b = a then some ((p.error? a).getD message) else p.error? b
    | .succeeded => p.error? b := by
  simp only [error?, errors_finish h]
  cases o with
  | succeeded => rfl
  | failed message =>
    rcases (p.errors.lookup a).eq_none_or_eq_some with hs | ⟨first, hs⟩
    · rcases eq_or_ne b a with rfl | hb
      · simp [hs, List.lookup_append]
      · simp [hs, hb, List.lookup_append, List.lookup_cons, beq_eq_false_iff_ne.mpr hb]
    · rcases eq_or_ne b a with rfl | hb
      · simp [hs]
      · simp [hs, hb]

/-- The last task of an asset that ends gives the asset its final status. -/
theorem recorder_finish (h : p.asset? i = some a) : (p.finish i o).recorder =
    if (p.finish i o).remainingOf a = 0 then p.recorder.record a.text
      (if ((p.finish i o).error? a).isSome then .failed else .succeeded)
    else p.recorder := by
  have hleft := remainingOf_finish (o := o) (b := a) h
  rw [if_pos rfl] at hleft
  rw [hleft]
  simp only [finish, h, beq_iff_eq]
  split <;> rfl

/-! ### Accounts -/

/-- Looking up a key in a table of the values of a function. -/
theorem lookup_map_pair {α : Type} [DecidableEq α] (f : α → Nat) (l : List α) (a : α) :
    (l.map fun b => (b, f b)).lookup a = if a ∈ l then some (f a) else none := by
  induction l with
  | nil => rfl
  | cons b l ih =>
    by_cases h : a = b
    · simp [h]
    · simp [List.lookup_cons, beq_eq_false_iff_ne.mpr h, h, ih]

/-- Before a run begins no task has an outcome. -/
theorem outcome?_begin (tasks : List PlannedTask) (r : Recorder) (i : Nat) :
    (begin tasks r).outcome? i = none := by
  simp only [outcome?, begin, List.getElem?_map]
  cases tasks[i]? <;> rfl

/-- Before a run begins all tasks of an asset are left. -/
theorem remainingOf_begin (tasks : List PlannedTask) (r : Recorder) (a : AssetName) :
    (begin tasks r).remainingOf a = (tasks.map (·.id.asset)).count a := by
  simp only [remainingOf, begin, lookup_map_pair, List.mem_eraseDups]
  split
  · rfl
  · next h => exact (List.count_eq_zero.mpr h).symm

theorem unfinishedOf_begin (tasks : List PlannedTask) (r : Recorder) (a : AssetName) :
    (begin tasks r).unfinishedOf a = (tasks.map (·.id.asset)).count a := by
  have hopen : ∀ i, (begin tasks r).isFinished i = false := fun i =>
    not_isFinished_iff.mpr (outcome?_begin tasks r i)
  -- the tasks are counted by place on one side and one by one on the other
  have hassets : (tasks.map (·.id.asset)).map some =
      (List.range tasks.length).map (begin tasks r).asset? := by
    apply List.ext_getElem?
    intro i
    by_cases hi : i < tasks.length
    · simp [asset?, begin, hi]
    · simp [hi]
  have hcount : (tasks.map (·.id.asset)).count a =
      ((tasks.map (·.id.asset)).map some).countP (· == some a) := by
    rw [List.countP_map]
    rfl
  rw [hcount, hassets, List.countP_map]
  simp only [unfinishedOf, hopen, Bool.not_false, Bool.and_true]
  rfl

/-- The tallies are right before a run begins. -/
theorem tallied_begin (tasks : List PlannedTask) (r : Recorder) : (begin tasks r).Tallied where
  length_eq := List.length_map _
  remaining_eq a := (remainingOf_begin tasks r a).trans (unfinishedOf_begin tasks r a).symm
  error_iff a := by
    simp only [Failed, outcome?_begin]
    simp [error?, begin]

/-- A move keeps the tallies right. -/
theorem Tallied.move (h : p.Tallied) (hm : p.Move q) : q.Tallied := by
  cases hm with
  | @start i a ha hopen =>
    constructor
    · simpa using h.length_eq
    · intro b
      have hb := h.remaining_eq b
      simp only [unfinishedOf, isFinished] at hb
      simpa [unfinishedOf, isFinished] using hb
    · intro b
      have hb := h.error_iff b
      simp only [Failed] at hb
      simpa [Failed] using hb
  | @finish i a o ha hopen =>
    have hl := h.length_eq
    constructor
    · rw [outcomes_finish ha, List.length_set, tasks_finish, hl]
    · intro b
      rw [remainingOf_finish ha, unfinishedOf_finish hl ha hopen, h.remaining_eq]
    · intro b
      -- an asset has an error as soon as one of its tasks has failed, and keeps the first one
      simp only [error?_finish ha, asset?_finish]
      cases o with
      | succeeded =>
        simp only [h.error_iff, failed_finish_iff hl ha hopen]
      | failed message =>
        simp only [failed_finish_failed_iff hl ha]
        rcases eq_or_ne b a with rfl | hb
        · simp only [if_pos, Option.isSome_some, true_iff]
          exact ⟨i, ha, .inl rfl⟩
        · rw [if_neg hb, h.error_iff]
          refine exists_congr fun j => and_congr_right fun hj => (or_iff_right ?_).symm
          rintro rfl
          exact hb (Option.some.inj (hj.symm.trans ha))

/-- The tallies stay right in a row of moves. -/
theorem Tallied.advance (h : p.Tallied) (hpq : p.Advance q) : q.Tallied := by
  induction hpq with
  | refl => exact h
  | tail _ hm ih => exact ih.move hm

/-- A move of the progress does not change the tasks. -/
theorem Move.tasks_eq (hm : p.Move q) : q.tasks = p.tasks := by
  cases hm with
  | start => exact tasks_start
  | finish => exact tasks_finish

/-- Advances of the progress do not change the tasks. -/
theorem tasks_advance (hpq : p.Advance q) : q.tasks = p.tasks := by
  induction hpq with
  | refl => rfl
  | tail _ hm ih => exact hm.tasks_eq.trans ih

/-- **An outcome is final**: it does not change when other tasks are started and finished. -/
theorem Tallied.outcome?_advance (h : p.Tallied) (hpq : p.Advance q)
    (hi : p.outcome? i = some o) : q.outcome? i = some o := by
  induction hpq with
  | refl => exact hi
  | @tail q' q hpq' hm ih =>
    cases hm with
    | start => simpa using ih
    | @finish j a o' ha hopen =>
      -- a task that is finished had no outcome before, so it is another one
      rw [outcome?_finish (h.advance hpq').length_eq ha]
      split
      · next heq => rw [heq, hopen] at ih; cases ih
      · exact ih

end Progress

end AssetFlow
