import AssetFlow.Proofs.Run.Record
import AssetFlow.Proofs.Run.Execution

/-!
# Why assets fail

The message that is reported of an asset is the one that came first. It came when some task ended
badly while no task of the asset had failed. Either the task was one of the asset itself, and the
message is its own; or the failure spread to the asset, and the message names the asset of the task.
A failure spreads along the tasks that wait for one another, so that the asset reads that other
asset, directly or not, and none of its tasks is ever handed over.

## Main definitions

- `Progress.Worded`: the message of an asset is that of one of its failed tasks
- `Execution.BringsDown`: the end of a task by which an asset failed

## Main statements

- `Execution.Run.exists_bringsDown`: an asset with a message was brought down by a task
- `Execution.Traced.ancestor_of_spread`: how far a failure spreads
- `Execution.root_cause`: why the assets failed that a summary reports as failed
-/

namespace AssetFlow

namespace Progress

variable {p q : Progress} {a b : AssetName} {e : String}

/-- The message of an asset is that of one of its failed tasks. -/
def Worded (p : Progress) : Prop :=
  ∀ a e, p.error? a = some e → ∃ i, p.asset? i = some a ∧ p.outcome? i = some (.failed e)

/-- No asset has an error before the first task starts. -/
theorem error?_begin (tasks : List PlannedTask) (r : Recorder) (a : AssetName) :
    (begin tasks r).error? a = none :=
  rfl

/-- No error is there to be worded before the first task starts. -/
theorem worded_begin (tasks : List PlannedTask) (r : Recorder) : (begin tasks r).Worded := by
  intro a e he
  rw [error?_begin] at he
  cases he

/-- The first message of an asset stays. -/
theorem Move.error?_eq (hm : p.Move q) (he : p.error? b = some e) : q.error? b = some e := by
  cases hm with
  | start => rwa [error?_start]
  | finish o ha hopen =>
    rw [error?_finish ha]
    cases o with
    | succeeded => exact he
    | failed message =>
      show (if b = _ then some ((p.error? _).getD message) else p.error? b) = some e
      split
      · next hb => rw [← hb, he, Option.getD_some]
      · exact he

/-- An error stays what it was. -/
theorem error?_advance (hpq : p.Advance q) (he : p.error? b = some e) : q.error? b = some e := by
  induction hpq with
  | refl => exact he
  | tail _ hm ih => exact hm.error?_eq ih

/-- A move of the progress keeps every error traced to its cause. -/
theorem Worded.move (hw : p.Worded) (h : p.Tallied) (hm : p.Move q) : q.Worded := by
  intro b e he
  -- a message that was there before is still that of the same task
  have hkept : p.error? b = some e →
      ∃ i, q.asset? i = some b ∧ q.outcome? i = some (.failed e) := by
    intro hold
    obtain ⟨i, hi, hfailed⟩ := hw b e hold
    refine ⟨i, ?_, h.outcome?_advance (.single hm) hfailed⟩
    rwa [asset?, hm.tasks_eq]
  cases hm with
  | start => exact hkept (by rwa [error?_start] at he)
  | @finish i a o ha hopen =>
    rw [error?_finish ha] at he
    cases o with
    | succeeded => exact hkept he
    | failed message =>
      dsimp only at he
      split at he
      · next hb =>
        subst hb
        cases hold : p.error? b with
        | some first =>
          rw [hold] at he
          exact hkept (hold.trans he)
        | none =>
          rw [hold, Option.getD_none] at he
          obtain rfl := Option.some.inj he
          refine ⟨i, by rwa [asset?_finish], ?_⟩
          rw [outcome?_finish h.length_eq ha, if_pos rfl]
      · exact hkept he

/-- Advances of the progress keep every error traced to its cause. -/
theorem Worded.advance (hw : p.Worded) (h : p.Tallied) (hpq : p.Advance q) : q.Worded := by
  induction hpq with
  | refl => exact hw
  | tail hpq hm ih => exact ih.move (h.advance hpq) hm

end Progress

namespace TaskId

variable {p : Pipeline} {task other : TaskId}

/-- Main tasks wait for the main tasks and the checks of ancestors. -/
theorem waitsFor_iff_of_main (hkind : task.kind = .main) :
    task.WaitsFor p other ↔
      (other.kind = .main ∨ other.kind = .checks) ∧ p.Ancestor other.asset task.asset := by
  rw [WaitsFor, hkind]

/-- The other tasks wait for the main task of their asset. -/
theorem waitsFor_iff_of_ne_main (hkind : task.kind ≠ .main) :
    task.WaitsFor p other ↔ other = ⟨task.asset, .main⟩ := by
  rw [WaitsFor]
  cases hk : task.kind with
  | main => exact absurd hk hkind
  | checks => rfl
  | pushMetadata => rfl

end TaskId

namespace Execution

variable {p : Pipeline} {c : RunConfig} {previous : Option RunState} {plan : RunPlan}
  {workers : Nat} {r : Recorder} {hs : List Happening} {h : Happening} {x x₀ y : Execution}
  {i j : Nat} {a b : AssetName} {t u : PlannedTask} {m e : String} {s : RunSummary}

/-! ### The first failure -/

/-- An asset gets its message when a task fails. -/
theorem Traced.error?_step (ht : x.Traced plan workers hs) (hstep : Step plan workers x h y) :
    y.schedule.progress.error? b = x.schedule.progress.error? b ∨
      x.schedule.progress.error? b = none ∧ ∃ i m, h = .ended i (.failed m) ∧
        i ∈ x.schedule.running ∧ y = x.withSchedule (x.schedule.finish i (.failed m)) := by
  cases hstep with
  | cancel => exact .inl rfl
  | start _ _ hstart =>
    obtain ⟨i, rest, -, -, rfl⟩ := ht.valid.of_start?_eq hstart
    exact .inl Progress.error?_start
  | refuse _ _ hstart =>
    obtain ⟨i, rest, -, heq, -⟩ := ht.valid.of_start?_eq hstart
    cases heq
  | @finish i o _ _ hi =>
    cases o with
    | succeeded =>
      obtain ⟨a, ha⟩ := Progress.exists_asset? (ht.valid.of_mem_running hi).1
      left
      rw [withSchedule, Schedule.finish_succeeded]
      exact Progress.error?_finish ha
    | failed m =>
      cases hold : x.schedule.progress.error? b with
      | none => exact .inr ⟨rfl, i, m, rfl, hi, rfl⟩
      | some e => exact .inl (Progress.error?_advance (ht.valid.ends_finish hi _).advance hold)
  | conclude => exact .inl rfl

/-- In every run, every error is traced to its cause. -/
theorem Run.worded (hplan : RunPlan.build p c previous = .ok plan)
    (hr : Run plan workers (begin p plan r) hs x) (hnone : x.summary = none) :
    x.schedule.progress.Worded :=
  (Progress.worded_begin _ _).advance (Progress.tallied_begin _ _) (hr.advance hplan hnone)

/-- An asset with a message got it from a task that failed, and what failed then has stayed so. -/
theorem Run.exists_finish (hplan : RunPlan.build p c previous = .ok plan)
    (hr : Run plan workers (begin p plan r) hs x) (he : x.schedule.progress.error? b = some e) :
    ∃ later before y i m, hs = later ++ .ended i (.failed m) :: before ∧
      Run plan workers (begin p plan r) before y ∧ y.summary = none ∧ i ∈ y.schedule.running ∧
      y.schedule.progress.error? b = none ∧
      (y.schedule.finish i (.failed m)).progress.error? b = some e ∧
      Run plan workers (begin p plan r) (.ended i (.failed m) :: before)
        (y.withSchedule (y.schedule.finish i (.failed m))) ∧
      ∀ k o, (y.schedule.finish i (.failed m)).progress.outcome? k = some o →
        x.schedule.progress.outcome? k = some o := by
  induction hr generalizing e with
  | nil => cases he
  | @next hs x z h hr hstep ih =>
    have ht := traced_of_run hplan hr
    rcases ht.error?_step (b := b) hstep with heq | ⟨hnone, i, m, rfl, hi, rfl⟩
    · obtain ⟨later, before, y, i, m, rfl, hy, hopen, hi, hnone, hsome, hend, hkept⟩ :=
        ih (heq.symm.trans he)
      exact ⟨h :: later, before, y, i, m, rfl, hy, hopen, hi, hnone, hsome, hend,
        fun k o hk => ht.outcome?_step hstep (hkept k o hk)⟩
    · exact ⟨[], hs, x, i, m, rfl, hr, hstep.summary_none, hi, hnone, he, .next hr hstep,
        fun _ _ hk => hk⟩

/-! ### How far a failure spreads -/

/-- A task that fails when another one ends badly waits for a task that fails then, too. -/
theorem Traced.exists_failed_wait (ht : x.Traced plan workers hs) (hi : i ∈ x.schedule.running)
    (hu : plan.tasks[j]? = some u) (hne : j ≠ i) (hopen : x.schedule.progress.outcome? j = none)
    (hfailed : (x.schedule.finish i (.failed m)).progress.Failed j) :
    ∃ d ∈ u.waitsFor, (x.schedule.finish i (.failed m)).progress.Failed d ∧
      x.schedule.progress.outcome? d = none := by
  have hends := ht.valid.ends_finish hi (.failed m)
  obtain ⟨d, hd, hdfailed⟩ :
      ∃ d ∈ x.schedule.progress.waitsOf j,
        (x.schedule.finish i (.failed m)).progress.Failed d := by
    rcases hends.outcome?_or j hne with heq | ⟨-, hcause, -⟩
    · obtain ⟨m', hm'⟩ := hfailed
      cases (heq.symm.trans hm').symm.trans hopen
    · exact hcause
  refine ⟨d, ht.waitsOf_eq hu ▸ hd, hdfailed, ?_⟩
  rcases eq_or_ne d i with rfl | hdi
  · exact (ht.valid.of_mem_running hi).2.1
  -- had it failed before, the task that waits for it would have failed along with it
  · rcases hends.outcome?_or d hdi with heq | ⟨hnone, -⟩
    · obtain ⟨m', hm'⟩ := hdfailed
      obtain ⟨m'', hm''⟩ := ht.valid.failed_of_waits j d hd ⟨m', heq.symm.trans hm'⟩
      cases hm''.symm.trans hopen
    · exact hnone

/-- A failure spreads to tasks of the same asset and of assets that read it, and only if the task
that ended badly was to produce or check data. -/
theorem Traced.ancestor_of_spread (hplan : RunPlan.build p c previous = .ok plan)
    (ht : x.Traced plan workers hs) (hi : i ∈ x.schedule.running)
    (htask : plan.tasks[i]? = some t) (hu : plan.tasks[j]? = some u) (hne : j ≠ i)
    (hopen : x.schedule.progress.outcome? j = none)
    (hfailed : (x.schedule.finish i (.failed m)).progress.Failed j) :
    (t.id.kind = .main ∨ t.id.kind = .checks) ∧
      (u.id.asset = t.id.asset ∨ p.Ancestor t.id.asset u.id.asset) := by
  induction j using Nat.strongRecOn generalizing u with
  | ind j ih =>
    obtain ⟨d, hd, hdfailed, hdopen⟩ := ht.exists_failed_wait hi hu hne hopen hfailed
    obtain ⟨v, hv, hwaits⟩ := (RunPlan.mem_waitsFor_iff hplan hu).mp hd
    have hlt : d < j := ht.valid.lt_of_mem_waitsOf ((ht.waitsOf_eq hu).symm ▸ hd)
    by_cases hdi : d = i
    · -- the task waits for the one that ended
      subst hdi
      obtain rfl := Option.some.inj (hv.symm.trans htask)
      by_cases hkind : u.id.kind = .main
      · obtain ⟨hstage, hreads⟩ := (TaskId.waitsFor_iff_of_main hkind).mp hwaits
        exact ⟨hstage, .inr hreads⟩
      · have hid := (TaskId.waitsFor_iff_of_ne_main hkind).mp hwaits
        exact ⟨.inl (congrArg TaskId.kind hid), .inl (congrArg TaskId.asset hid).symm⟩
    · -- the task waits for one that comes earlier and fails for the same reason
      obtain ⟨hstage, hspread⟩ := ih d hlt hv hdi hdopen hdfailed
      refine ⟨hstage, ?_⟩
      by_cases hkind : u.id.kind = .main
      · obtain ⟨-, hreads⟩ := (TaskId.waitsFor_iff_of_main hkind).mp hwaits
        rcases hspread with heq | hspread
        · exact .inr (heq ▸ hreads)
        · exact .inr (hspread.trans hreads)
      · have hid := (TaskId.waitsFor_iff_of_ne_main hkind).mp hwaits
        exact congrArg TaskId.asset hid ▸ hspread

/-- If a failure spreads to one task of an asset, each of its tasks waits for a task that fails. -/
theorem Traced.exists_failed_wait_of_spread (hplan : RunPlan.build p c previous = .ok plan)
    (ht : x.Traced plan workers hs) (hi : i ∈ x.schedule.running)
    (htask : plan.tasks[i]? = some t) (hu : plan.tasks[j]? = some u)
    (hother : u.id.asset ≠ t.id.asset) (hopen : x.schedule.progress.outcome? j = none)
    (hfailed : (x.schedule.finish i (.failed m)).progress.Failed j) {k : Nat} {v : PlannedTask}
    (hv : plan.tasks[k]? = some v) (hasset : v.id.asset = u.id.asset) :
    ∃ d ∈ v.waitsFor, (x.schedule.finish i (.failed m)).progress.Failed d := by
  have hne : ∀ {l : Nat} {w : PlannedTask}, plan.tasks[l]? = some w →
      w.id.asset = u.id.asset → l ≠ i := by
    rintro l w hw heq rfl
    obtain rfl := Option.some.inj (hw.symm.trans htask)
    exact hother heq.symm
  -- the task that produces the data of the asset fails, as the others wait for nothing else
  obtain ⟨l, w, hw, hid, hlopen, hlfailed⟩ : ∃ (l : Nat) (w : PlannedTask),
      plan.tasks[l]? = some w ∧ w.id = ⟨u.id.asset, .main⟩ ∧
        x.schedule.progress.outcome? l = none ∧
        (x.schedule.finish i (.failed m)).progress.Failed l := by
    by_cases hkind : u.id.kind = .main
    · exact ⟨j, u, hu, by rw [← hkind], hopen, hfailed⟩
    · obtain ⟨d, hd, hdfailed, hdopen⟩ := ht.exists_failed_wait hi hu (hne hu rfl) hopen hfailed
      obtain ⟨w, hw, hwaits⟩ := (RunPlan.mem_waitsFor_iff hplan hu).mp hd
      exact ⟨d, w, hw, (TaskId.waitsFor_iff_of_ne_main hkind).mp hwaits, hdopen, hdfailed⟩
  by_cases hkind : v.id.kind = .main
  · have hsame : v.id = w.id := by rw [hid, ← hasset, ← hkind]
    have hl : l ≠ i := hne hw (by rw [hid])
    obtain ⟨d, hd, hdfailed, -⟩ := ht.exists_failed_wait hi hw hl hlopen hlfailed
    refine ⟨d, (RunPlan.mem_waitsFor_iff hplan hv).mpr ?_, hdfailed⟩
    rw [hsame]
    exact (RunPlan.mem_waitsFor_iff hplan hw).mp hd
  · refine ⟨l, (RunPlan.mem_waitsFor_iff hplan hv).mpr ⟨w, hw, ?_⟩, hlfailed⟩
    rw [TaskId.waitsFor_iff_of_ne_main hkind, hid, hasset]

/-- A task that waits for a failed one is never handed over. -/
theorem Traced.not_started_of_failed_wait (ht : x.Traced plan workers hs)
    (hu : plan.tasks[j]? = some u) {d : Nat} (hd : d ∈ u.waitsFor)
    (hfailed : x.schedule.progress.Failed d) : .started j ∉ hs := by
  intro hj
  refine hfailed.not_succeeded (ht.waits_of_started j hj d ?_)
  rwa [ht.waitsOf_eq hu]

/-! ### Root causes -/

/-- The end of a task by which an asset failed: the task was handed over and ended with a message,
and no task of the asset had failed until then. -/
def BringsDown (plan : RunPlan) (workers : Nat) (x₀ : Execution) (hs : List Happening) (i : Nat)
    (m : String) (b : AssetName) : Prop :=
  ∃ later before y, hs = later ++ .ended i (.failed m) :: before ∧ .started i ∈ before ∧
    Run plan workers x₀ before y ∧
    ∀ j u, plan.tasks[j]? = some u → u.id.asset = b → ¬ y.schedule.progress.Failed j

/-- An asset without a message has no task that failed. -/
theorem Traced.not_failed_of_error?_eq_none (ht : x.Traced plan workers hs)
    (hclear : x.schedule.progress.error? b = none) (hu : plan.tasks[j]? = some u)
    (hasset : u.id.asset = b) : ¬ x.schedule.progress.Failed j := by
  intro hfailed
  have hmessage := (ht.valid.tallied.error_iff b).mpr ⟨j, hasset ▸ ht.asset?_eq hu, hfailed⟩
  rw [hclear] at hmessage
  cases hmessage

/-- The first task of an asset that fails gives the asset its message. -/
theorem Traced.error?_finish_self {i : Nat} {t : PlannedTask} {m : String}
    (ht : x.Traced plan workers hs) (hi : i ∈ x.schedule.running) (htask : plan.tasks[i]? = some t)
    (hclear : x.schedule.progress.error? t.id.asset = none) :
    (x.schedule.finish i (.failed m)).progress.error? t.id.asset = some m := by
  obtain ⟨-, hopen, -⟩ := ht.valid.of_mem_running hi
  have ha := ht.asset?_eq htask
  obtain ⟨q, hq, hspread⟩ := Schedule.finish_failed m ht.valid.tallied ha hopen
  have hfirst : (x.schedule.progress.finish i (.failed m)).error? t.id.asset = some m := by
    rw [Progress.error?_finish ha, hclear]
    simp
  rw [hq]
  exact Progress.error?_advance hspread.advance hfirst

/-- **Every message has a cause**: an asset with a message was brought down by a task. The message
is that of the task if it was one of its own, and else it names the asset of the task. -/
theorem Run.exists_bringsDown (hplan : RunPlan.build p c previous = .ok plan)
    (hr : Run plan workers (begin p plan r) hs x) (he : x.schedule.progress.error? b = some e) :
    ∃ (i : Nat) (t : PlannedTask) (m : String),
      BringsDown plan workers (begin p plan r) hs i m b ∧ plan.tasks[i]? = some t ∧
      (t.id.asset = b ∧ e = m ∨
        p.Ancestor t.id.asset b ∧ (t.id.kind = .main ∨ t.id.kind = .checks) ∧
          e = s!"upstream '{t.id.asset.text}' failed" ∧
          ∀ j u, plan.tasks[j]? = some u → u.id.asset = b → .started j ∉ hs) := by
  have ht := traced_of_run hplan hr
  obtain ⟨later, before, y, i, m, rfl, hy, hnone, hi, hclear, hsome, hz, hkept⟩ :=
    hr.exists_finish hplan he
  have hty := traced_of_run hplan hy
  obtain ⟨hlt, -, -⟩ := hty.valid.of_mem_running hi
  rw [hty.tasks_eq] at hlt
  obtain ⟨t, htask⟩ : ∃ t, plan.tasks[i]? = some t := ⟨_, List.getElem?_eq_getElem hlt⟩
  have hnever : ∀ j u, plan.tasks[j]? = some u → u.id.asset = b →
      ¬ y.schedule.progress.Failed j := fun _ _ =>
    hty.not_failed_of_error?_eq_none hclear
  have hstarted := (hty.started_iff i).mpr (.inl hi)
  refine ⟨i, t, m, ⟨later, before, y, rfl, hstarted, hy, hnever⟩, htask, ?_⟩
  rcases eq_or_ne t.id.asset b with rfl | hother
  · -- the first message of the asset is that of its own task
    exact .inl ⟨rfl, Option.some.inj (hsome.symm.trans (hty.error?_finish_self hi htask hclear))⟩
  · -- the failure has spread to some task of the asset
    right
    have hworded : (y.schedule.finish i (.failed m)).progress.Worded := hz.worded hplan hnone
    obtain ⟨j, hj, hmessage⟩ := hworded b e hsome
    have hends := hty.valid.ends_finish hi (.failed m)
    rw [Progress.asset?, Progress.tasks_advance hends.advance, hty.tasks_eq] at hj
    obtain ⟨u, hu, rfl⟩ := Option.map_eq_some_iff.mp hj
    have hne : j ≠ i := by
      rintro rfl
      exact hother (congrArg (·.id.asset) (Option.some.inj (htask.symm.trans hu)))
    rcases hends.outcome?_or j hne with heq | ⟨hjopen, -, a, ha', heq⟩
    · exact absurd ⟨e, heq.symm.trans hmessage⟩ (hnever j u hu rfl)
    · obtain rfl := Option.some.inj ((hty.asset?_eq htask).symm.trans ha')
      have hfailed : (y.schedule.finish i (.failed m)).progress.Failed j := ⟨e, hmessage⟩
      obtain ⟨hstage, hreads⟩ := hty.ancestor_of_spread hplan hi htask hu hne hjopen hfailed
      refine ⟨hreads.resolve_left hother.symm, hstage, ?_, fun k v hv hasset => ?_⟩
      · cases hmessage.symm.trans heq
        rfl
      · obtain ⟨d, hd, m', hm'⟩ := hty.exists_failed_wait_of_spread hplan hi htask hu hother.symm
          hjopen hfailed hv hasset
        exact ht.not_started_of_failed_wait hv hd ⟨m', hkept d _ hm'⟩

/-- **Every failure that is reported has a root cause.** An asset that a summary lists as failed was
brought down by a task that was carried out and ended badly when no task of the asset had failed.
Either the task is one of its own, and the message is the one it ended with; or it produced or
checked the data of an asset that this one reads, directly or not, the message names that asset, and
no task of this one was handed over in the whole run. -/
theorem root_cause (hplan : RunPlan.build p c previous = .ok plan)
    (hr : Run plan workers (begin p plan r) hs x) (hsum : x.summary = some s) :
    ∀ name e, (name, e) ∈ s.failed → ∃ b ∈ plan.scheduled, b.text = name ∧
      ∃ (i : Nat) (t : PlannedTask) (m : String),
        BringsDown plan workers (begin p plan r) hs i m b ∧ plan.tasks[i]? = some t ∧
        (t.id.asset = b ∧ e = m ∨
          p.Ancestor t.id.asset b ∧ (t.id.kind = .main ∨ t.id.kind = .checks) ∧
            e = s!"upstream '{t.id.asset.text}' failed" ∧
            ∀ j u, plan.tasks[j]? = some u → u.id.asset = b → .started j ∉ hs) := by
  intro name e hmem
  obtain ⟨before, y, -, -, -, -, -, rfl⟩ := hr.concluded hsum
  obtain rfl : (y.schedule.progress.summary plan y.cancelled).1 = s := Option.some.inj hsum
  rw [Progress.summary_eq] at hmem
  obtain ⟨b, hb, hentry⟩ := List.mem_filterMap.mp hmem
  obtain ⟨e', he, heq⟩ := Option.map_eq_some_iff.mp hentry
  obtain ⟨rfl, rfl⟩ := Prod.mk.inj heq
  exact ⟨b, hb, rfl, hr.exists_bringsDown hplan he⟩

/-- A run of the small pipeline in which the first asset fails, and the second one along with it. -/
theorem failing_run : ∃ x s, x.summary = some s ∧
    s.failed = [("orders", "no such table"), ("report", "upstream 'orders' failed")] ∧
    Run RunPlan.smallPlan 1 (begin RunPlan.smallPipeline RunPlan.smallPlan smallRecorder)
      [.concluded, .ended 0 (.failed "no such table"), .started 0] x :=
  ⟨_, _, rfl, rfl, .next (.next (.next .nil (.start rfl rfl rfl))
    (.finish rfl rfl (List.mem_cons_self ..))) (.conclude rfl rfl rfl)⟩

/-- The report fails because of the orders, and is never begun. -/
theorem report_brought_down : ∃ x s, x.summary = some s ∧
    ("report", "upstream 'orders' failed") ∈ s.failed ∧
    Run RunPlan.smallPlan 1 (begin RunPlan.smallPipeline RunPlan.smallPlan smallRecorder)
      [.concluded, .ended 0 (.failed "no such table"), .started 0] x ∧
    ∃ i m, BringsDown RunPlan.smallPlan 1
      (begin RunPlan.smallPipeline RunPlan.smallPlan smallRecorder)
      [.concluded, .ended 0 (.failed "no such table"), .started 0] i m RunPlan.report := by
  obtain ⟨x, s, hsum, hfailed, hr⟩ := failing_run
  have hmem : ("report", "upstream 'orders' failed") ∈ s.failed := by
    rw [hfailed]
    decide
  obtain ⟨b, -, hname, i, t, m, hbrings, -⟩ :=
    root_cause RunPlan.build_smallPipeline hr hsum _ _ hmem
  obtain rfl : b = RunPlan.report := AssetName.eq_of_text_eq hname
  exact ⟨x, s, hsum, hmem, hr, i, m, hbrings⟩

end Execution

end AssetFlow
