import AssetFlow.Check.Run
import AssetFlow.Proofs.Run.Plan
import Mathlib.Tactic.Common

/-!
# Checks that block and checks that do not

An asset passes its checks just if all of them can be asked and the blocking ones are met. So a
check that does not block has a say after all: not by its answer, but by having none.

## Main definitions

- `AssetCheck`, `Asset.checks`: the checks of an asset in their order
- `AssetCheck.Answered`, `AssetCheck.Met`: what comes of a check
- `Thinned`: a list without some of its members that do not block
- `Asset.ThinnedTo`: an asset without some of its checks that do not block

## Main statements

- `result_runChecks`: what the checks of an asset come to
- `runChecks_of_answered`: what they come to if all of them are answered
- `Asset.ThinnedTo.result_runChecks`: checks that do not block and are answered have no say
- `runChecks_eq_ok_iff`: when an asset passes its checks
-/

namespace AssetFlow

/-! ### Leaving out what does not block -/

/-- The second list is the first one without some of its members that do not block. -/
inductive Thinned {α : Type} (blocking : α → Bool) : List α → List α → Prop
  | nil : Thinned blocking [] []
  | keep {x : α} {xs ys : List α} : Thinned blocking xs ys → Thinned blocking (x :: xs) (x :: ys)
  | drop {x : α} {xs ys : List α} :
    blocking x = false → Thinned blocking xs ys → Thinned blocking (x :: xs) ys

namespace Thinned

variable {α β ε : Type} {b : α → Bool} {c : β → Bool} {xs ys xs' ys' : List α}

theorem append (h : Thinned b xs ys) (h' : Thinned b xs' ys') :
    Thinned b (xs ++ xs') (ys ++ ys') := by
  induction h with
  | nil => exact h'
  | keep _ ih => exact .keep ih
  | drop hx _ ih => exact .drop hx ih

theorem map (h : Thinned b xs ys) {f : α → β} (hf : ∀ x, c (f x) = b x) :
    Thinned c (xs.map f) (ys.map f) := by
  induction h with
  | nil => exact .nil
  | keep _ ih => exact .keep ih
  | drop hx _ ih => exact .drop ((hf _).trans hx) ih

theorem filter_eq (h : Thinned b xs ys) : ys.filter b = xs.filter b := by
  induction h with
  | nil => rfl
  | keep _ ih => simp only [List.filter_cons, ih]
  | drop hx _ ih => rw [ih, List.filter_cons_of_neg (by simp [hx])]

/-- If what is left out does not fail, a row of work fails alike without it. -/
theorem mapM (h : Thinned b xs ys) {f : α → Except ε β}
    (hb : ∀ x y, f x = .ok y → c y = b x) (hf : ∀ x ∈ xs, b x = false → ∃ y, f x = .ok y) :
    (∃ e, xs.mapM f = .error e ∧ ys.mapM f = .error e) ∨
      ∃ us vs, xs.mapM f = .ok us ∧ ys.mapM f = .ok vs ∧ Thinned c us vs := by
  induction h with
  | nil => exact .inr ⟨[], [], rfl, rfl, .nil⟩
  | @keep x xs ys _ ih =>
    obtain ⟨-, hrest⟩ := List.forall_mem_cons.mp hf
    rw [List.mapM_cons, List.mapM_cons]
    cases hx : f x with
    | error e => exact .inl ⟨e, rfl, rfl⟩
    | ok y =>
      rcases ih hrest with ⟨e, hxs, hys⟩ | ⟨us, vs, hus, hvs, hthinned⟩
      · rw [hxs, hys]
        exact .inl ⟨e, rfl, rfl⟩
      · rw [hus, hvs]
        exact .inr ⟨y :: us, y :: vs, rfl, rfl, .keep hthinned⟩
  | @drop x xs ys hx _ ih =>
    obtain ⟨hfirst, hrest⟩ := List.forall_mem_cons.mp hf
    obtain ⟨y, hy⟩ := hfirst hx
    rw [List.mapM_cons, hy]
    rcases ih hrest with ⟨e, hxs, hys⟩ | ⟨us, vs, hus, hvs, hthinned⟩
    · rw [hxs, hys]
      exact .inl ⟨e, rfl, rfl⟩
    · rw [hus, hvs]
      exact .inr ⟨y :: us, vs, rfl, rfl, .drop ((hb x y hy).trans hx) hthinned⟩

end Thinned

/-! ### What comes of work -/

namespace Work

variable {α β ε ε' : Type}

@[simp]
theorem result_pure (a : α) : (pure a : Work ε α).result = .ok a :=
  rfl

@[simp]
theorem result_ofExcept (r : Except ε α) : (ofExcept r).result = r :=
  rfl

@[simp]
theorem result_mapError (f : ε → ε') (w : Work ε α) :
    (w.mapError f).result = w.result.mapError f :=
  rfl

@[simp]
theorem result_bind (w : Work ε α) (f : α → Work ε β) :
    (w >>= f).result = w.result.bind fun a => (f a).result := by
  change (w.andThen f).result = _
  unfold andThen
  cases w.result <;> rfl

end Work

/-! ### Single checks -/

namespace CheckQuery

variable {w : Warehouse} {q : CheckQuery} {n : Int}

/-- The answer of the database. -/
def answer (w : Warehouse) (q : CheckQuery) : Except WarehouseError Int :=
  match q.expectation with
  | .noRows => (w.countRows q.sql).result.map Int.ofNat
  | .value _ => (w.scalar q.sql).result

/-- An answer is the expected one. -/
def Meets (q : CheckQuery) (answer : Int) : Prop :=
  match q.expectation with
  | .noRows => answer = 0
  | .value n => answer = n

/-- The result of a check is the reason that its answer gives, if any. -/
theorem result_evaluate : (q.evaluate w).result = (q.answer w).map q.reason? := by
  unfold evaluate answer
  cases q.expectation with
  | noRows =>
    simp only [Work.result_bind]
    cases (w.countRows q.sql).result <;> rfl
  | value n =>
    simp only [Work.result_bind]
    cases (w.scalar q.sql).result <;> rfl

/-- There is no reason against an answer just if it is the expected one. -/
theorem reason?_eq_none_iff (h : q.answer w = .ok n) : q.reason? n = none ↔ q.Meets n := by
  unfold answer at h
  unfold reason? Meets
  cases hq : q.expectation with
  | noRows =>
    rw [hq] at h
    dsimp only at h ⊢
    cases hcount : (w.countRows q.sql).result with
    | error e =>
      rw [hcount] at h
      cases h
    | ok k =>
      -- rows are counted, so that the answer is not negative
      rw [hcount] at h
      obtain rfl := Except.ok.inj h
      simp
  | value m => simp

end CheckQuery

/-- A check of an asset; a check of a column goes with the name of the column. -/
inductive AssetCheck
  | ofColumn (column : String) (check : ColumnCheck)
  | custom (check : CustomCheck)

namespace AssetCheck

/-- Whether the asset fails if the check is not met. -/
def blocking : AssetCheck → Bool
  | ofColumn _ c => c.blocking
  | custom c => c.blocking

/-- The query of a check of a table. -/
def compile (table : String) : AssetCheck → Except CheckError CheckQuery
  | ofColumn column c => c.compile table column
  | custom c => .ok c.compile

variable {w : Warehouse} {table : String} {c : AssetCheck} {q : CheckQuery}

/-- The check compiles, and its query is answered. -/
def Answered (w : Warehouse) (table : String) (c : AssetCheck) : Prop :=
  ∃ q n, c.compile table = .ok q ∧ q.answer w = .ok n

/-- The check compiles, and the answer to its query is the expected one. -/
def Met (w : Warehouse) (table : String) (c : AssetCheck) : Prop :=
  ∃ q n, c.compile table = .ok q ∧ q.answer w = .ok n ∧ q.Meets n

/-- Why an answered check is not met, if so. -/
def reason? (w : Warehouse) (table : String) (c : AssetCheck) : Option String := do
  let q ← (c.compile table).toOption
  let n ← (q.answer w).toOption
  q.reason? n

/-- A query blocks if its check does. -/
theorem blocking_of_compile (h : c.compile table = .ok q) : q.blocking = c.blocking := by
  cases c with
  | ofColumn column check =>
    simp only [compile, ColumnCheck.compile] at h
    cases hsql : check.query table column with
    | error e =>
      rw [hsql] at h
      cases h
    | ok sql =>
      rw [hsql] at h
      obtain rfl := Except.ok.inj h
      rfl
  | custom check =>
    obtain rfl := Except.ok.inj h
    rfl

/-- The reason of a check is that of the answer to its query. -/
theorem reason?_of_answer {n : Int} (hq : c.compile table = .ok q) (hn : q.answer w = .ok n) :
    c.reason? w table = q.reason? n := by
  simp [reason?, hq, hn, Except.toOption]

/-- There is a reason against an answered check just if it is not met. -/
theorem reason?_eq_none_iff (h : c.Answered w table) :
    c.reason? w table = none ↔ c.Met w table := by
  obtain ⟨q, n, hq, hn⟩ := h
  rw [reason?_of_answer hq hn, CheckQuery.reason?_eq_none_iff hn]
  constructor
  · exact fun hmeets => ⟨q, n, hq, hn, hmeets⟩
  · rintro ⟨q', n', hq', hn', hmeets⟩
    obtain rfl := Except.ok.inj (hq.symm.trans hq')
    obtain rfl := Except.ok.inj (hn.symm.trans hn')
    exact hmeets

end AssetCheck

/-! ### All checks of an asset -/

/-- The checks of an asset in their order: those of the columns, then the custom ones. -/
def Asset.checks (a : Asset) : List AssetCheck :=
  (a.columns.flatMap fun column => column.checks.map (.ofColumn column.name)) ++
    a.customChecks.map .custom

/-- Why blocking checks are not met, in the order of the checks. -/
def blockingReasons (w : Warehouse) (table : String) (cs : List AssetCheck) : List String :=
  (cs.filter AssetCheck.blocking).filterMap (AssetCheck.reason? w table)

/-- Asks for the answer to a query, which is kept with it. -/
def CheckQuery.ask (w : Warehouse) (q : CheckQuery) : Except WarehouseError (CheckQuery × Int) :=
  (q.answer w).map fun n => (q, n)

/-- Why blocking queries are not met by their answers. -/
def reasonsOf (answers : List (CheckQuery × Int)) : List String :=
  (answers.filter (·.1.blocking)).filterMap fun (q, n) => q.reason? n

variable {w : Warehouse} {a a' : Asset} {table : String} {cs : List AssetCheck}
  {qs : List CheckQuery}

theorem checkQueries_eq (a : Asset) :
    a.checkQueries = a.checks.mapM (AssetCheck.compile a.name.text) := by
  have hcustom : (a.customChecks.map AssetCheck.custom).mapM (AssetCheck.compile a.name.text) =
      .ok (a.customChecks.map CustomCheck.compile) := by
    rw [List.mapM_map]
    exact List.mapM_pure
  have hcolumns : (a.columns.flatMap fun column =>
        column.checks.map (AssetCheck.ofColumn column.name)).mapM
          (AssetCheck.compile a.name.text) =
      (a.columns.flatMap fun column => column.checks.map fun c => (column.name, c)).mapM
        fun check => check.2.compile a.name.text check.1 := by
    have hpairs : (a.columns.flatMap fun column =>
          column.checks.map (AssetCheck.ofColumn column.name)) =
        (a.columns.flatMap fun column => column.checks.map fun c => (column.name, c)).map
          fun check => AssetCheck.ofColumn check.1 check.2 := by
      simp [List.map_flatMap, Function.comp_def]
    rw [hpairs, List.mapM_map]
    rfl
  rw [Asset.checkQueries, Asset.checks, List.mapM_append, hcustom, hcolumns]
  rfl

/-- The result of checks are the reasons of all answers, if all of them were answered. -/
theorem result_evaluateAll :
    (evaluateAll w qs).result = (qs.mapM (CheckQuery.ask w)).map reasonsOf := by
  induction qs with
  | nil => rfl
  | cons q qs ih =>
    have hask : q.ask w = (q.answer w).map fun n => (q, n) := rfl
    simp only [evaluateAll, Work.result_bind, CheckQuery.result_evaluate, Work.result_pure, ih,
      List.mapM_cons, hask]
    cases q.answer w with
    | error e => rfl
    | ok n =>
      cases qs.mapM (CheckQuery.ask w) with
      | error e => rfl
      | ok answers =>
        cases hblocking : q.blocking <;> cases hreason : q.reason? n <;>
          simp [reasonsOf, hblocking, hreason, Except.map, Except.bind, bind, pure, Except.pure]

/-- **What the checks of an asset come to.** All of them are compiled, then all are asked, and the
reasons against blocking ones decide. -/
theorem result_runChecks (w : Warehouse) (a : Asset) :
    (runChecks w a).result =
      (a.checks.mapM (AssetCheck.compile a.name.text)).bind fun qs =>
        ((qs.mapM (CheckQuery.ask w)).mapError .warehouse).bind fun answers =>
          if (reasonsOf answers).isEmpty then .ok () else .error (.unmet (reasonsOf answers)) := by
  rw [runChecks, Work.result_bind, Work.result_ofExcept, checkQueries_eq]
  cases a.checks.mapM (AssetCheck.compile a.name.text) with
  | error e => rfl
  | ok qs =>
    simp only [Except.bind, Work.result_bind, Work.result_mapError, result_evaluateAll]
    cases qs.mapM (CheckQuery.ask w) with
    | error e => rfl
    | ok answers =>
      simp only [Except.map, Except.mapError]
      split <;> rfl

theorem ask_eq_ok_iff {q : CheckQuery} {x : CheckQuery × Int} :
    q.ask w = .ok x ↔ ∃ n, q.answer w = .ok n ∧ x = (q, n) := by
  unfold CheckQuery.ask
  cases q.answer w with
  | error e => simp [Except.map]
  | ok n => simp [Except.map, eq_comm]

/-- If all checks are answered, the reasons against them are those of the answers. -/
theorem exists_answers (h : ∀ c ∈ cs, c.Answered w table) :
    ∃ qs answers, cs.mapM (AssetCheck.compile table) = .ok qs ∧
      qs.mapM (CheckQuery.ask w) = .ok answers ∧
        reasonsOf answers = blockingReasons w table cs := by
  induction cs with
  | nil => exact ⟨[], [], rfl, rfl, rfl⟩
  | cons c cs ih =>
    obtain ⟨⟨q, n, hq, hn⟩, hcs⟩ := List.forall_mem_cons.mp h
    obtain ⟨qs, answers, hqs, hanswers, hreasons⟩ := ih hcs
    refine ⟨q :: qs, (q, n) :: answers, mapM_eq_ok_iff.mpr (.cons hq (mapM_eq_ok_iff.mp hqs)),
      mapM_eq_ok_iff.mpr (.cons (ask_eq_ok_iff.mpr ⟨n, hn, rfl⟩) (mapM_eq_ok_iff.mp hanswers)), ?_⟩
    have hblocking := AssetCheck.blocking_of_compile hq
    have hreason := AssetCheck.reason?_of_answer hq hn
    unfold reasonsOf blockingReasons at hreasons ⊢
    rw [List.filter_cons, List.filter_cons]
    dsimp only
    rw [hblocking]
    split
    · rw [List.filterMap_cons, List.filterMap_cons, hreason, hreasons]
    · exact hreasons

/-- If all queries were answered, all checks were. -/
theorem answered_of_answers {answers : List (CheckQuery × Int)}
    (hqs : cs.mapM (AssetCheck.compile table) = .ok qs)
    (hanswers : qs.mapM (CheckQuery.ask w) = .ok answers) : ∀ c ∈ cs, c.Answered w table := by
  intro c hc
  obtain ⟨q, hmem, hq⟩ := (mem_of_mapM hqs).1 c hc
  obtain ⟨x, -, hx⟩ := (mem_of_mapM hanswers).1 q hmem
  obtain ⟨n, hn, -⟩ := ask_eq_ok_iff.mp hx
  exact ⟨q, n, hq, hn⟩

/-- **If all checks are answered,** the reasons against blocking ones decide. -/
theorem runChecks_of_answered (h : ∀ c ∈ a.checks, c.Answered w a.name.text) :
    (runChecks w a).result =
      if (blockingReasons w a.name.text a.checks).isEmpty then .ok ()
      else .error (.unmet (blockingReasons w a.name.text a.checks)) := by
  obtain ⟨qs, answers, hqs, hanswers, hreasons⟩ := exists_answers h
  rw [result_runChecks, hqs, ← hreasons]
  simp only [Except.bind, hanswers, Except.mapError]

/-- An asset passes its checks only if all of them are answered. -/
theorem answered_of_runChecks (h : (runChecks w a).result = .ok ()) :
    ∀ c ∈ a.checks, c.Answered w a.name.text := by
  rw [result_runChecks] at h
  cases hqs : a.checks.mapM (AssetCheck.compile a.name.text) with
  | error e =>
    rw [hqs] at h
    cases h
  | ok qs =>
    simp only [hqs, Except.bind] at h
    cases hanswers : qs.mapM (CheckQuery.ask w) with
    | error e =>
      rw [hanswers] at h
      cases h
    | ok answers => exact answered_of_answers hqs hanswers

/-- Nothing blocks exactly if every blocking check is met. -/
theorem blockingReasons_eq_nil_iff (h : ∀ c ∈ cs, c.Answered w table) :
    blockingReasons w table cs = [] ↔ ∀ c ∈ cs, c.blocking = true → c.Met w table := by
  rw [blockingReasons, List.filterMap_eq_nil_iff]
  simp only [List.mem_filter, and_imp]
  refine forall₂_congr fun c hc => ?_
  rw [AssetCheck.reason?_eq_none_iff (h c hc)]

/-- **An asset passes its checks** just if all of them are answered and the blocking ones are
met. -/
theorem runChecks_eq_ok_iff : (runChecks w a).result = .ok () ↔
    (∀ c ∈ a.checks, c.Answered w a.name.text) ∧
      ∀ c ∈ a.checks, c.blocking = true → c.Met w a.name.text := by
  constructor
  · intro h
    have hanswered := answered_of_runChecks h
    refine ⟨hanswered, (blockingReasons_eq_nil_iff hanswered).mp ?_⟩
    rw [runChecks_of_answered hanswered] at h
    split at h
    · next hempty => exact List.isEmpty_iff.mp hempty
    · cases h
  · rintro ⟨hanswered, hmet⟩
    rw [runChecks_of_answered hanswered, (blockingReasons_eq_nil_iff hanswered).mpr hmet]
    rfl

/-! ### Assets with fewer checks -/

/-- The second asset is the first one without some of its checks that do not block. -/
structure Asset.ThinnedTo (a a' : Asset) : Prop where
  columns : List.Forall₂ (fun c c' : Column => Thinned ColumnCheck.blocking c.checks c'.checks ∧
    c' = { c with checks := c'.checks }) a.columns a'.columns
  custom : Thinned CustomCheck.blocking a.customChecks a'.customChecks
  rest : a' = { a with columns := a'.columns, customChecks := a'.customChecks }

namespace Asset.ThinnedTo

theorem name_eq (h : a.ThinnedTo a') : a'.name = a.name := by
  rw [h.rest]

theorem checks (h : a.ThinnedTo a') : Thinned AssetCheck.blocking a.checks a'.checks := by
  refine .append ?_ (h.custom.map fun _ => rfl)
  have hcolumns := h.columns
  clear h
  generalize a.columns = cs, a'.columns = cs' at hcolumns ⊢
  induction hcolumns with
  | nil => exact .nil
  | @cons c c' _ _ hc _ ih =>
    obtain ⟨hthinned, hrest⟩ := hc
    have hname : c'.name = c.name := by rw [hrest]
    rw [List.flatMap_cons, List.flatMap_cons, hname]
    exact .append (hthinned.map fun _ => rfl) ih

/-- **Checks that do not block and are answered have no say.** -/
theorem result_runChecks (h : a.ThinnedTo a')
    (hanswered : ∀ c ∈ a.checks, c.blocking = false → c.Answered w a.name.text) :
    (runChecks w a').result = (runChecks w a).result := by
  rw [AssetFlow.result_runChecks, AssetFlow.result_runChecks, h.name_eq]
  rcases h.checks.mapM (c := CheckQuery.blocking)
      (fun c q hq => AssetCheck.blocking_of_compile hq)
      (fun c hc hblocking => (hanswered c hc hblocking).imp fun q hq => hq.choose_spec.1) with
    ⟨e, hqs, hqs'⟩ | ⟨qs, qs', hqs, hqs', hthinned⟩
  · rw [hqs, hqs']
  rw [hqs, hqs']
  have hask : ∀ q ∈ qs, q.blocking = false → ∃ x, q.ask w = .ok x := by
    intro q hq hblocking
    obtain ⟨c, hc, hcompile⟩ := (mem_of_mapM hqs).2 q hq
    obtain ⟨q', n, hq', hn⟩ :=
      hanswered c hc ((AssetCheck.blocking_of_compile hcompile).symm.trans hblocking)
    obtain rfl := Except.ok.inj (hcompile.symm.trans hq')
    exact ⟨_, ask_eq_ok_iff.mpr ⟨n, hn, rfl⟩⟩
  have hkept : ∀ (q : CheckQuery) (x : CheckQuery × Int), q.ask w = .ok x →
      x.1.blocking = q.blocking := by
    intro q x hx
    obtain ⟨n, -, rfl⟩ := ask_eq_ok_iff.mp hx
    rfl
  rcases hthinned.mapM (c := fun x : CheckQuery × Int => x.1.blocking) hkept hask with
    ⟨e, hx, hx'⟩ | ⟨answers, answers', hx, hx', hanswers⟩
  · simp only [Except.bind, hx, hx']
  · simp only [Except.bind, hx, hx', Except.mapError, reasonsOf, hanswers.filter_eq]

end Asset.ThinnedTo

/-- **Blocking checks decide, if the others are answered.** An asset passes its checks just if all
of them compile and are answered, and the blocking ones are met. If all compile and are answered, a
failure tells the reasons against those blocking ones that are not met, in the order of the checks.
Leaving out checks that do not block changes nothing as long as these are answered; if one is not,
the asset fails, whatever comes of the others. -/
theorem blocking_checks_decide (w : Warehouse) (a : Asset) :
    ((runChecks w a).result = .ok () ↔
      (∀ c ∈ a.checks, c.Answered w a.name.text) ∧
        ∀ c ∈ a.checks, c.blocking = true → c.Met w a.name.text) ∧
    ((∀ c ∈ a.checks, c.Answered w a.name.text) →
      (∀ c ∈ a.checks, c.reason? w a.name.text = none ↔ c.Met w a.name.text) ∧
      ∀ e, (runChecks w a).result = .error e → e.message =
        "; ".intercalate ((a.checks.filter AssetCheck.blocking).filterMap
          (AssetCheck.reason? w a.name.text))) ∧
    ∀ a', a.ThinnedTo a' →
      ((runChecks w a).result = .ok () ↔ (runChecks w a').result = .ok () ∧
        ∀ c ∈ a.checks, c.blocking = false → c.Answered w a.name.text) ∧
      ((∀ c ∈ a.checks, c.blocking = false → c.Answered w a.name.text) →
        (runChecks w a').result = (runChecks w a).result) := by
  refine ⟨runChecks_eq_ok_iff, fun hanswered =>
    ⟨fun c hc => AssetCheck.reason?_eq_none_iff (hanswered c hc), fun e he => ?_⟩,
    fun a' h => ⟨⟨fun hok => ?_, fun ⟨hok, hanswered⟩ => ?_⟩, h.result_runChecks⟩⟩
  · rw [runChecks_of_answered hanswered] at he
    split at he
    · cases he
    · obtain rfl := Except.error.inj he
      rfl
  · have hanswered : ∀ c ∈ a.checks, c.blocking = false → c.Answered w a.name.text :=
      fun c hc _ => answered_of_runChecks hok c hc
    exact ⟨(h.result_runChecks hanswered).trans hok, hanswered⟩
  · exact (h.result_runChecks hanswered).symm.trans hok

/-- Orders with a check of their amounts that does not block. -/
def checkedOrders : Asset where
  name := RunPlan.orders
  type := "duckdb.sql"
  columns := [{ name := "amount", checks := [{ name := "positive", blocking := false }] }]

/-- A database that knows no column of this name. -/
def unawareWarehouse : Warehouse where
  engine := { answer := fun _ => .fault "Binder Error: column \"amount\" not found" }
  location := ":memory:"

/-- A check that does not block fails the orders, which pass without it. -/
theorem amounts_fail_orders :
    (∀ c ∈ checkedOrders.checks, c.blocking = false) ∧
      (runChecks unawareWarehouse checkedOrders).result = .error (.warehouse
        (.statementFailed "Binder Error: column \"amount\" not found")) ∧
      (runChecks unawareWarehouse
        { checkedOrders with columns := [{ name := "amount" }] }).result = .ok () := by
  have hreason : WarehouseError.ofReason "Binder Error: column \"amount\" not found" =
      .statementFailed "Binder Error: column \"amount\" not found" := by
    decide +kernel
  refine ⟨by simp [Asset.checks, checkedOrders, AssetCheck.blocking], ?_, rfl⟩
  rw [← hreason]
  rfl

end AssetFlow
