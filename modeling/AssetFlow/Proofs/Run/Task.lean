import AssetFlow.Run.Task

/-!
# What tasks work on

All statements that a task sends go to the database of its workplace, however the task ends.

## Main definitions

- `Work.ActsOn`: work whose statements all go to one database

## Main statements

- `Workplace.actsOn_carryOut`: the work of every task
-/

namespace AssetFlow

namespace Work

variable {ε ε' α β : Type} {database : String} {w : Work ε α}

/-- All statements that are sent go to one database. -/
def ActsOn (database : String) (w : Work ε α) : Prop :=
  ∀ r, .sql r ∈ w.actions → r.database = database

/-- Work that sends no statement acts on any database. -/
theorem actsOn_of_actions_eq_nil (h : w.actions = []) : w.ActsOn database := by
  intro r hr
  rw [h] at hr
  cases hr

@[simp]
theorem actsOn_pure (a : α) : (pure a : Work ε α).ActsOn database :=
  actsOn_of_actions_eq_nil rfl

@[simp]
theorem actsOn_done (a : α) : (done a : Work ε α).ActsOn database :=
  actsOn_of_actions_eq_nil rfl

@[simp]
theorem actsOn_fail (e : ε) : (fail e : Work ε α).ActsOn database :=
  actsOn_of_actions_eq_nil rfl

@[simp]
theorem actsOn_ofExcept (r : Except ε α) : (ofExcept r).ActsOn database :=
  actsOn_of_actions_eq_nil rfl

/-- The statements are sent whatever becomes of a fault. -/
theorem ActsOn.mapError (h : w.ActsOn database) (f : ε → ε') : (w.mapError f).ActsOn database :=
  h

/-- Work whose fault is ignored acts on the same database. -/
theorem ActsOn.ignoringFault {w : Work ε Unit} (h : w.ActsOn database) :
    w.ignoringFault.ActsOn database :=
  h

/-- Work is continued with what came of it, if it did not fail. -/
theorem ActsOn.bind {f : α → Work ε β} (h : w.ActsOn database)
    (hf : ∀ a, w.result = .ok a → (f a).ActsOn database) : (w >>= f).ActsOn database := by
  intro r hr
  change .sql r ∈ (w.andThen f).actions at hr
  unfold andThen at hr
  cases hres : w.result with
  | error e =>
    rw [hres] at hr
    exact h r hr
  | ok a =>
    rw [hres] at hr
    rcases List.mem_append.mp hr with hr | hr
    · exact h r hr
    · exact hf a hres r hr

end Work

open Work

/-! ### The warehouse -/

namespace Warehouse

variable (w : Warehouse)

/-- A statement is sent to the database of its connection. -/
theorem actsOn_send (sql : String) (parameters : List String) :
    (w.send sql parameters).ActsOn w.location := by
  intro r hr
  obtain rfl := Action.sql.inj (List.mem_singleton.mp hr)
  rfl

/-- A script acts on the database of its warehouse, as do the other works of a warehouse. -/
theorem actsOn_runScript (sql : String) : (w.runScript sql).ActsOn w.location :=
  (w.actsOn_send sql []).bind fun _ _ => actsOn_pure ()

theorem actsOn_dropRelation (relation : String) : (w.dropRelation relation).ActsOn w.location :=
  (w.actsOn_runScript _).ignoringFault.bind fun _ _ => (w.actsOn_runScript _).ignoringFault

theorem actsOn_hasRelation (name : String) : (w.hasRelation name).ActsOn w.location := by
  refine (w.actsOn_send _ _).bind fun reply _ => ?_
  match reply with
  | .value (some n) => exact actsOn_pure _
  | .value none | .fault _ | .noRows => exact actsOn_fail _

theorem actsOn_scalar (sql : String) : (w.scalar sql).ActsOn w.location := by
  refine (w.actsOn_send sql []).bind fun reply _ => ?_
  match reply with
  | .value (some n) => exact actsOn_pure _
  | .value none | .fault _ | .noRows => exact actsOn_fail _

theorem actsOn_countRows (select : String) : (w.countRows select).ActsOn w.location :=
  (w.actsOn_scalar _).bind fun _ _ => actsOn_pure _

end Warehouse

/-! ### Checks -/

/-- A check asks the database that it is given, and no other one. -/
theorem CheckQuery.actsOn_evaluate (w : Warehouse) (q : CheckQuery) :
    (q.evaluate w).ActsOn w.location := by
  unfold CheckQuery.evaluate
  cases q.expectation with
  | noRows =>
    exact (w.actsOn_countRows _).bind fun _ _ => (actsOn_pure _).bind fun _ _ => actsOn_pure _
  | value n => exact (w.actsOn_scalar _).bind fun _ _ => actsOn_pure _

/-- A row of checks asks the database that it is given, and no other one. -/
theorem actsOn_evaluateAll (w : Warehouse) (qs : List CheckQuery) :
    (evaluateAll w qs).ActsOn w.location := by
  induction qs with
  | nil => exact actsOn_done _
  | cons q rest ih =>
    exact (q.actsOn_evaluate w).bind fun _ _ => ih.bind fun _ _ => actsOn_pure _

/-- The checks of an asset ask the database that they are given, and no other one. -/
theorem actsOn_runChecks (w : Warehouse) (a : Asset) : (runChecks w a).ActsOn w.location := by
  refine (actsOn_ofExcept _).bind fun queries _ => ?_
  refine ((actsOn_evaluateAll w queries).mapError _).bind fun reasons _ => ?_
  split
  · exact actsOn_pure _
  · exact actsOn_fail _

/-! ### Tasks -/

namespace Workplace

variable (p : Workplace)

/-- What is opened is the database of the workplace. -/
theorem location_of_connect {w : Warehouse} (h : p.connect.result = .ok w) :
    w.location = p.database := by
  unfold connect Warehouse.connect at h
  split at h
  · cases h
  · obtain rfl := Except.ok.inj h
    rfl

/-- Replacing a relation acts on the database of the connection. -/
theorem actsOn_replace (w : Warehouse) (a : Asset) (select : String) :
    (p.replace w a select).ActsOn w.location := by
  have hend (relation : String) : ActsOn w.location (do
      if p.config.fullRefresh then w.dropRelation relation
      w.materialize relation a.materialization select) := by
    split
    · exact (w.actsOn_dropRelation _).bind fun _ _ => w.actsOn_runScript _
    · exact w.actsOn_runScript _
  unfold replace
  cases Warehouse.schemaOf? a.name.text with
  | some schema => exact (w.actsOn_runScript _).bind fun _ _ => hend _
  | none => exact (actsOn_pure ()).bind fun _ _ => hend _

/-- Materializing an asset acts on the database of its warehouse. -/
theorem actsOn_materialize (w : Warehouse) (a : Asset) :
    (p.materialize w a).ActsOn w.location :=
  (actsOn_ofExcept _).bind fun select _ => (p.actsOn_replace w a select).mapError _

/-- Running a script sends no statement. -/
theorem actsOn_execute (r : ScriptRequest) {database : String} :
    (p.execute r).ActsOn database := by
  intro s hs
  cases List.mem_singleton.mp hs

/-- The output of a script is looked for in the database of the workplace. -/
theorem actsOn_runScript (a : Asset) : (p.runScript a).ActsOn p.database := by
  unfold runScript
  cases a.path with
  | none => exact actsOn_fail _
  | some file =>
    refine (p.actsOn_execute _).bind fun _ _ => ?_
    split
    · exact actsOn_pure _
    · refine (actsOn_ofExcept _).bind fun w hw => ?_
      rw [← p.location_of_connect hw]
      refine ((w.actsOn_hasRelation _).mapError _).bind fun there _ => ?_
      split
      · exact actsOn_pure _
      · exact actsOn_fail _

/-- Describing an asset acts on the database of the connection. -/
theorem actsOn_describe (w : Warehouse) (a : Asset) : (describe w a).ActsOn w.location := by
  unfold describe
  simp only
  split
  · exact actsOn_done _
  · exact (w.actsOn_runScript _).mapError _

/-- **A task works on its database** only. -/
theorem actsOn_carryOut (a : Asset) (kind : TaskKind) : (p.carryOut a kind).ActsOn p.database := by
  unfold carryOut
  split
  · exact p.actsOn_runScript a
  · refine (actsOn_ofExcept _).bind fun w hw => ?_
    rw [← p.location_of_connect hw]
    cases kind with
    | main => exact p.actsOn_materialize w a
    | checks => exact (actsOn_runChecks w a).mapError _
    | pushMetadata => exact actsOn_describe w a

end Workplace

end AssetFlow
