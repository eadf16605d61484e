import AssetFlow.Proofs.Sql.Origin

/-!
# Tables and lineage of a text

The tables of a text are found without regard to scope: a name that some `WITH` clause binds is left
out wherever it stands. Lineage knows what is bound at each place. So the tables of its columns are
among those of the text unless they have the name of a clause that does not bind it there.

The definitions of a recursive clause are read before its names are bound. So lineage goes back to
what stands unbound in the text, or to the name of a recursive clause in a definition of this clause
(`upstreams_unbound`). The columns of these tables are those that the schema knows, and else those
that the text asks for (`upstreams_traced`).

## Main statements

- `tables_leave_out`: what is left out of the tables, and what of it lineage goes back to
- `orders_left_out`: a table that lineage goes back to and that is left out
- `upstreams_unbound`: what the upstream tables of columns stand for in the text
- `upstream_bound`: a name of a recursive clause that is taken for a table
- `upstreams_traced`: where the table and the column of an upstream reference are written
-/

namespace AssetFlow.Sql

variable {d : Dialect} {sql : String} {s : Statement}

theorem referencedTables_of_ok (h : firstStatement d sql = .ok s) :
    referencedTables d sql = .ok s.tables := by
  rw [referencedTables, h]
  rfl

theorem columnLineage_of_ok {schema : Schema} (h : firstStatement d sql = .ok s) :
    columnLineage d schema sql = .ok (s.lineage schema) := by
  rw [columnLineage, h]
  rfl

theorem exists_of_columnLineage_eq_ok {schema : Schema} {outputs : List Output}
    (h : columnLineage d schema sql = .ok outputs) :
    ∃ s, firstStatement d sql = .ok s ∧ s.lineage schema = outputs := by
  cases hs : firstStatement d sql with
  | error e =>
    rw [columnLineage, hs] at h
    cases h
  | ok s => exact ⟨s, rfl, Except.ok.inj ((columnLineage_of_ok hs).symm.trans h)⟩

/-- **What is left out of the tables of a text**: the tables are the names that no `WITH` clause
binds anywhere. All that is bound where it stands is left out, and nothing else if the names of the
clauses are used in scope, but only then. A table that lineage goes back to is among the tables or
has the name of a clause out of whose reach it stands, which cannot be if the names of the clauses
are used only after them. -/
theorem tables_leave_out (h : firstStatement d sql = .ok s) : ∃ tables outputs,
    referencedTables d sql = .ok tables ∧ columnLineage d {} sql = .ok outputs ∧
    (∀ t, t ∈ tables ↔ ∃ r ∈ s.references, r.name.path = t ∧ r.key ∉ s.boundNames) ∧
    (∀ r ∈ s.references, r.Bound → r.name.path ∉ tables) ∧
    (s.BindsInScope ↔ ∀ r ∈ s.references, r.name.path ∉ tables → r.Bound) ∧
    (∀ o ∈ outputs, ∀ c ∈ o.sources, c.table ∈ tables ∨ ∃ r ∈ s.references,
      r.name.path = c.table ∧ r.key ∈ s.boundNames ∧ r.key ∉ r.binders.visible) ∧
    (s.BindsAhead → ∀ o ∈ outputs, ∀ c ∈ o.sources, c.table ∈ tables) := by
  have horigin : ∀ o ∈ s.lineage {}, ∀ c ∈ o.sources, c.table ∈ s.tables ∨ ∃ r ∈ s.references,
      r.name.path = c.table ∧ r.key ∈ s.boundNames ∧ r.key ∉ r.binders.visible := by
    intro o ho c hc
    obtain ⟨r, hr, hfree, hpath⟩ := Statement.exists_reference_of_lineage ho hc
    have hpath : r.name.path = c.table := hpath
    by_cases hbound : r.key ∈ s.boundNames
    · exact .inr ⟨r, hr, hpath, hbound, hfree⟩
    · exact .inl (Statement.mem_tables_iff.mpr ⟨r, hr, hpath, hbound⟩)
  refine ⟨s.tables, s.lineage {}, referencedTables_of_ok h, columnLineage_of_ok h,
    fun t => Statement.mem_tables_iff, ?_, Statement.bindsInScope_iff, horigin, ?_⟩
  · intro r hr hbound
    exact (Statement.not_mem_tables_iff hr).mpr (Statement.mem_boundNames_of_bound hr hbound)
  · intro hahead o ho c hc
    refine (horigin o ho c hc).resolve_right ?_
    rintro ⟨r, hr, -, hbound, hfree⟩
    exact hfree (hahead r hr hbound)

theorem exists_ok_of_any {ε α : Type} {x : Except ε α} {f : α → Bool}
    (h : x.toOption.any f = true) : ∃ a, x = .ok a ∧ f a = true := by
  cases x with
  | error e => cases h
  | ok a => exact ⟨a, rfl, h⟩

/-- A query by way of a common table expression. -/
def recentSql : String := "with recent as (select id from orders) select id from recent"

/-- The table that is read by way of the common table expression is among the tables. -/
theorem orders_among_tables : ∃ tables outputs,
    referencedTables .duckDb recentSql = .ok tables ∧
    columnLineage .duckDb {} recentSql = .ok outputs ∧
    (∃ o ∈ outputs, ⟨"orders", "id"⟩ ∈ o.sources) ∧ "orders" ∈ tables := by
  have hread : (firstStatement .duckDb recentSql).toOption.any (fun s =>
      decide (s.BindsAhead ∧ s.lineage {} = [⟨"id", [⟨"orders", "id"⟩]⟩])) = true := by
    decide +kernel
  obtain ⟨s, h, hs⟩ := exists_ok_of_any hread
  obtain ⟨hahead, hlineage⟩ := of_decide_eq_true hs
  obtain ⟨tables, outputs, htables, houtputs, -, -, -, -, hall⟩ := tables_leave_out h
  obtain rfl : [⟨"id", [⟨"orders", "id"⟩]⟩] = outputs :=
    hlineage ▸ Except.ok.inj ((columnLineage_of_ok h).symm.trans houtputs)
  have hsource : (⟨"orders", "id"⟩ : ColumnRef) ∈ [⟨"orders", "id"⟩] := List.mem_singleton_self _
  have hmem := List.mem_singleton_self (⟨"id", [⟨"orders", "id"⟩]⟩ : Output)
  exact ⟨tables, _, htables, houtputs, ⟨_, hmem, hsource⟩, hall hahead _ hmem _ hsource⟩

/-- A query by way of a common table expression that has the name of the table that it reads. -/
def shadowedSql : String := "with orders as (select * from orders) select * from orders"

/-- **A table that is read and left out**: the first use of the name is in the definition of the
common table expression, which is not recursive, and stands for the table. Lineage goes back to
it. -/
theorem orders_left_out : ∃ s, firstStatement .duckDb shadowedSql = .ok s ∧ s.isQuery = true ∧
    referencedTables .duckDb shadowedSql = .ok [] ∧
    columnLineage .duckDb {} shadowedSql = .ok [⟨"*", [⟨"orders", "*"⟩]⟩] ∧
    ∃ r ∈ s.references, r.name.path = "orders" ∧ ¬ r.Bound := by
  have hread : (firstStatement .duckDb shadowedSql).toOption.any (fun s =>
      s.isQuery && decide (∀ r ∈ s.references, r.key ∈ s.boundNames) &&
        decide (s.lineage {} = [⟨"*", [⟨"orders", "*"⟩]⟩]) &&
        s.references.any fun r => decide (r.name.path = "orders" ∧ ¬ r.Bound)) = true := by
    decide +kernel
  obtain ⟨s, h, hs⟩ := exists_ok_of_any hread
  simp only [Bool.and_eq_true, decide_eq_true_iff, List.any_eq_true] at hs
  obtain ⟨⟨⟨hquery, hbound⟩, hlineage⟩, hfree⟩ := hs
  have htables : s.tables = [] := by
    refine List.eq_nil_iff_forall_not_mem.mpr fun t ht => ?_
    obtain ⟨r, hr, -, hkey⟩ := Statement.mem_tables_iff.mp ht
    exact hkey (hbound r hr)
  exact ⟨s, h, hquery, htables ▸ referencedTables_of_ok h, hlineage ▸ columnLineage_of_ok h, hfree⟩

/-! ### Upstream tables -/

/-- The name of a recursive clause stands in a definition of this clause, and nothing ahead of it
binds it. -/
def Reference.Recurs (r : Reference) : Prop :=
  r.key ∈ r.binders.recursive ∧ r.key ∉ r.binders.visible

instance (r : Reference) : Decidable r.Recurs :=
  inferInstanceAs (Decidable (_ ∧ _))

theorem Reference.recurs_of_bound {r : Reference} (hfree : r.key ∉ r.binders.visible)
    (h : r.Bound) : r.Recurs :=
  ⟨h.resolve_left hfree, hfree⟩

/-- **What upstream tables stand for**: each is the name of a table in the text as it is written, or
as the schema knows it. No clause binds the name where it stands, but possibly a recursive clause in
whose definitions it stands; without such names, all upstream tables are unbound. -/
theorem upstreams_unbound {schema : Schema} {outputs : List Output}
    (h : columnLineage d schema sql = .ok outputs) : ∃ s, firstStatement d sql = .ok s ∧
      (∀ o ∈ outputs, ∀ c ∈ o.sources, ∃ r ∈ s.references,
        schema.registered r.name.path = c.table ∧ (r.Bound → r.Recurs)) ∧
      ((∀ r ∈ s.references, ¬ r.Recurs) → ∀ o ∈ outputs, ∀ c ∈ o.sources, ∃ r ∈ s.references,
        schema.registered r.name.path = c.table ∧ ¬ r.Bound) := by
  obtain ⟨s, hs, rfl⟩ := exists_of_columnLineage_eq_ok h
  have horigin : ∀ o ∈ s.lineage schema, ∀ c ∈ o.sources, ∃ r ∈ s.references,
      schema.registered r.name.path = c.table ∧ (r.Bound → r.Recurs) := by
    intro o ho c hc
    obtain ⟨r, hr, hfree, htable⟩ := Statement.exists_reference_of_lineage ho hc
    exact ⟨r, hr, htable, r.recurs_of_bound hfree⟩
  refine ⟨s, hs, horigin, fun hnone o ho c hc => ?_⟩
  obtain ⟨r, hr, htable, hrecurs⟩ := horigin o ho c hc
  exact ⟨r, hr, htable, fun hbound => hnone r hr (hrecurs hbound)⟩

/-- The orders as a schema knows them, in another case than they are referred to. -/
def ordersSchema : Schema :=
  ⟨[⟨"Orders", [⟨"id", "integer"⟩]⟩]⟩

/-- The upstream table is the one that the schema knows, and the name for it is not bound. -/
theorem orders_unbound :
    columnLineage .duckDb ordersSchema recentSql = .ok [⟨"id", [⟨"Orders", "id"⟩]⟩] ∧
    ∃ s, firstStatement .duckDb recentSql = .ok s ∧ ∃ r ∈ s.references,
      ordersSchema.registered r.name.path = "Orders" ∧ ¬ r.Bound := by
  have hread : (firstStatement .duckDb recentSql).toOption.any (fun s =>
      decide (s.lineage ordersSchema = [⟨"id", [⟨"Orders", "id"⟩]⟩] ∧
        ∀ r ∈ s.references, ¬ r.Recurs)) = true := by
    decide +kernel
  obtain ⟨s, h, hs⟩ := exists_ok_of_any hread
  obtain ⟨hlineage, hnone⟩ := of_decide_eq_true hs
  have houtputs : columnLineage .duckDb ordersSchema recentSql = .ok [⟨"id", [⟨"Orders", "id"⟩]⟩] :=
    hlineage ▸ columnLineage_of_ok h
  obtain ⟨s', h', -, hunbound⟩ := upstreams_unbound houtputs
  obtain rfl := Except.ok.inj (h.symm.trans h')
  exact ⟨houtputs, s, h, hunbound hnone _ (List.mem_singleton_self _) ⟨"Orders", "id"⟩
    (List.mem_singleton_self _)⟩

/-- A recursive query that reads no table. -/
def countSql : String :=
  "with recursive t as (select 1 as n union all select n + 1 from t) select n from t"

/-- **A name that is taken for a table**: the clause binds both uses of the name, but the column
goes back to a table of this name. -/
theorem upstream_bound : columnLineage .duckDb {} countSql = .ok [⟨"n", [⟨"t", "n"⟩]⟩] ∧
    ∃ s, firstStatement .duckDb countSql = .ok s ∧ s.isQuery = true ∧
      ∀ r ∈ s.references, r.Bound := by
  have hread : (firstStatement .duckDb countSql).toOption.any (fun s =>
      s.isQuery && decide (s.lineage {} = [⟨"n", [⟨"t", "n"⟩]⟩] ∧
        ∀ r ∈ s.references, r.Bound)) = true := by
    decide +kernel
  obtain ⟨s, h, hs⟩ := exists_ok_of_any hread
  simp only [Bool.and_eq_true, decide_eq_true_iff] at hs
  obtain ⟨hquery, hlineage, hbound⟩ := hs
  exact ⟨hlineage ▸ columnLineage_of_ok h, s, h, hquery, hbound⟩

/-! ### Upstream columns -/

/-- **No source is made up**: the table of each upstream reference is a name in the text as it is
written, or as the schema knows it; its column is one that the schema knows of this table, or what a
column reference in the text ends in, or stands for all columns of the table. -/
theorem upstreams_traced {schema : Schema} {outputs : List Output}
    (h : columnLineage d schema sql = .ok outputs) : ∃ s, firstStatement d sql = .ok s ∧
      ∀ o ∈ outputs, ∀ c ∈ o.sources,
        ((∃ t ∈ schema.tables, t.name = c.table) ∨ ∃ r ∈ s.references, r.name.path = c.table) ∧
        (c.column = "*" ∨
          (∃ t ∈ schema.tables, t.name = c.table ∧ c.column ∈ t.columns.map SchemaColumn.name) ∨
          ∃ path ∈ s.columnPaths, path.getLast?.map Ident.value = some c.column) := by
  obtain ⟨s, hs, rfl⟩ := exists_of_columnLineage_eq_ok h
  refine ⟨s, hs, fun o ho c hc => ⟨?_, Statement.column_of_lineage ho hc⟩⟩
  obtain ⟨r, hr, -, htable⟩ := Statement.exists_reference_of_lineage ho hc
  rw [Schema.registered] at htable
  split at htable
  · next t ht => exact .inl ⟨t, (Schema.find?_eq_some ht).1, htable⟩
  · exact .inr ⟨r, hr, htable⟩

/-- Two columns of a table. -/
def daysSql : String := "select id, day from raw"

/-- One of the columns. -/
def rawSchema : Schema :=
  ⟨[⟨"raw", [⟨"id", "integer"⟩]⟩]⟩

/-- The column that the schema does not know is one that the text asks for. -/
theorem day_traced :
    columnLineage .duckDb rawSchema daysSql =
      .ok [⟨"id", [⟨"raw", "id"⟩]⟩, ⟨"day", [⟨"raw", "day"⟩]⟩] ∧
    ∃ s, firstStatement .duckDb daysSql = .ok s ∧
      ∃ path ∈ s.columnPaths, path.getLast?.map Ident.value = some "day" := by
  have hread : (firstStatement .duckDb daysSql).toOption.any (fun s =>
      decide (s.lineage rawSchema =
        [⟨"id", [⟨"raw", "id"⟩]⟩, ⟨"day", [⟨"raw", "day"⟩]⟩])) = true := by
    decide +kernel
  obtain ⟨s, h, hs⟩ := exists_ok_of_any hread
  have houtputs : columnLineage .duckDb rawSchema daysSql =
      .ok [⟨"id", [⟨"raw", "id"⟩]⟩, ⟨"day", [⟨"raw", "day"⟩]⟩] :=
    of_decide_eq_true hs ▸ columnLineage_of_ok h
  obtain ⟨s', h', htraced⟩ := upstreams_traced houtputs
  obtain rfl := Except.ok.inj (h.symm.trans h')
  have hday := (htraced ⟨"day", [⟨"raw", "day"⟩]⟩ (by simp) ⟨"raw", "day"⟩ (by simp)).2
  refine ⟨houtputs, s, h, (hday.resolve_left (by simp)).resolve_left ?_⟩
  simp [rawSchema]

end AssetFlow.Sql
