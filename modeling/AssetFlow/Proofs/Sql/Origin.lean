import AssetFlow.Proofs.Sql.KnownTables
import AssetFlow.Proofs.Sql.References
import AssetFlow.Sql.Lineage

/-!
# Where lineage comes from

All columns that the outputs of a query are computed from belong to tables that the query refers to
where no `WITH` clause ahead of the place binds the name. Such a column is known of its table, or it
is asked for by the last identifier of a column reference, or it stands for all columns that are not
known. Lookups only pass on what the relations of a scope hold, and a named relation holds what its
common table expression does, or else its table: so it is enough that the names that are not bound
stand for allowed tables, and that the column references ask for allowed names
(`Query.outputs_from`).

## Main definitions

- `Query.columnPaths`: the column references that lineage follows
- `Origins`: what lineage may go back to
- `Sources.From`, `OutputsFrom`, `Relation.From`, `Scope.From`: all columns are allowed
- `Schema.registered`: the table that a name stands for
- `CteScope.Covers`: the common table expressions that are visible at a place, and what they hold

## Main statements

- `Query.outputs_from`: outputs are computed from allowed columns if free names and column
  references ask for such only
- `Statement.exists_reference_of_lineage`: every upstream table is referred to where it is not bound
- `Statement.column_of_lineage`: every upstream column is known, referred to or a wildcard
-/

namespace AssetFlow.Sql

/-! ### Column references -/

mutual

def Expr.columnPaths : Expr → List (List Ident)
  | .column path => [path]
  | .nested inner => inner.columnPaths
  | .cast _ inner _ => inner.columnPaths
  | .literal _ => []
  | .call _ rest => pieceColumnPaths rest
  | .access root steps => root.columnPaths ++ pieceColumnPaths steps
  | .phrase pieces => pieceColumnPaths pieces
termination_by structural e => e

def pieceColumnPaths : List Piece → List (List Ident)
  | [] => []
  | p :: rest => p.columnPaths ++ pieceColumnPaths rest
termination_by structural ps => ps

def Piece.columnPaths : Piece → List (List Ident)
  | .expr e => e.columnPaths
  | .query q => q.columnPaths
  | .text _ | .table _ | .factor _ | .source _ => []
termination_by structural p => p

/-- The column references in the projections of a query and of the queries that it reads: those of
its clause, those in place of tables, and those inside expressions. -/
def Query.columnPaths : Query → List (List Ident)
  | ⟨_, ctes, body, _⟩ => cteColumnPaths ctes ++ body.columnPaths
termination_by structural q => q

def cteColumnPaths : List Cte → List (List Ident)
  | [] => []
  | c :: rest => c.columnPaths ++ cteColumnPaths rest
termination_by structural cs => cs

def Cte.columnPaths : Cte → List (List Ident)
  | ⟨_, _, query, _⟩ => query.columnPaths
termination_by structural c => c

def Body.columnPaths : Body → List (List Ident)
  | .select s => s.columnPaths
  | .query q => q.columnPaths
  | .setOp left _ right => left.columnPaths ++ right.columnPaths
  | .other _ => []
termination_by structural b => b

def Select.columnPaths : Select → List (List Ident)
  | ⟨_, _, items, _, sources, _⟩ => itemColumnPaths items ++ sourceColumnPaths sources
termination_by structural s => s

def itemColumnPaths : List Item → List (List Ident)
  | [] => []
  | i :: rest => i.columnPaths ++ itemColumnPaths rest
termination_by structural is => is

def Item.columnPaths : Item → List (List Ident)
  | .unnamed e => e.columnPaths
  | .aliased e _ => e.columnPaths
  | .wildcard _ | .tableWildcard _ _ | .exprWildcard _ _ => []
termination_by structural i => i

def sourceColumnPaths : List TableWithJoins → List (List Ident)
  | [] => []
  | t :: rest => t.columnPaths ++ sourceColumnPaths rest
termination_by structural ts => ts

def TableWithJoins.columnPaths : TableWithJoins → List (List Ident)
  | ⟨relation, joins⟩ => relation.columnPaths ++ joinColumnPaths joins
termination_by structural t => t

def TableFactor.columnPaths : TableFactor → List (List Ident)
  | .derived _ query _ _ => query.columnPaths
  | .nested inner _ => inner.columnPaths
  | .table _ _ _ _ | .other _ => []
termination_by structural f => f

def joinColumnPaths : List Join → List (List Ident)
  | [] => []
  | j :: rest => j.columnPaths ++ joinColumnPaths rest
termination_by structural js => js

def Join.columnPaths : Join → List (List Ident)
  | ⟨_, _, relation, _, _⟩ => relation.columnPaths
termination_by structural j => j

end

/-- The column references of a statement that lineage follows; only queries have one. -/
def Statement.columnPaths : Statement → List (List Ident)
  | .query q => q.columnPaths
  | .command _ => []

/-! ### What lineage may go back to -/

/-- The schema knows the column under its table. -/
def Schema.Declares (schema : Schema) (c : ColumnRef) : Prop :=
  ∃ t ∈ schema.tables, t.name = c.table ∧ c.column ∈ t.columns.map SchemaColumn.name

/-- The tables that lineage may go back to, and the names that it may find unknown columns by. -/
structure Origins where
  schema : Schema
  tables : String → Prop
  names : String → Prop

/-- The table is allowed, and the column is known, has an allowed name or stands for all columns. -/
def Origins.Allows (P : Origins) (c : ColumnRef) : Prop :=
  P.tables c.table ∧ (c.column = "*" ∨ P.schema.Declares c ∨ P.names c.column)

variable {P : Origins}

/-- All columns are allowed. -/
def Sources.From (P : Origins) (xs : Sources) : Prop :=
  ∀ c ∈ xs, P.Allows c

/-- All outputs are computed from allowed columns. -/
def OutputsFrom (P : Origins) (os : List Output) : Prop :=
  ∀ o ∈ os, Sources.From P o.sources

/-! ### Lists of columns -/

namespace Sources

variable {xs ys : Sources} {c d : ColumnRef}

/-- Adding a source adds this one only. -/
theorem mem_add : c ∈ add d xs ↔ c = d ∨ c ∈ xs := by
  induction xs with
  | nil => simp [add]
  | cons x xs ih =>
    rw [add]
    split
    · exact List.mem_cons
    · split
      · next heq =>
        subst heq
        simp
      · rw [List.mem_cons, ih, List.mem_cons, or_left_comm]

/-- The sources of two are those of either. -/
theorem mem_union : c ∈ union xs ys ↔ c ∈ xs ∨ c ∈ ys := by
  induction ys generalizing xs with
  | nil => simp [union]
  | cons y ys ih =>
    have hstep : union xs (y :: ys) = union (add y xs) ys := rfl
    rw [hstep, ih, mem_add, List.mem_cons, or_assoc, or_left_comm]

/-- The sources of several are those of any of them. -/
theorem mem_unions {xss : List Sources} : c ∈ unions xss ↔ ∃ xs ∈ xss, c ∈ xs := by
  have hfold : ∀ acc, c ∈ xss.foldl union acc ↔ c ∈ acc ∨ ∃ xs ∈ xss, c ∈ xs := by
    induction xss with
    | nil => simp
    | cons xs xss ih =>
      intro acc
      simp [ih, mem_union, or_assoc]
  rw [unions, hfold]
  simp

theorem from_nil : From P [] := by
  simp [From]

/-- Two rows of allowed sources are allowed together. -/
theorem From.union (hx : From P xs) (hy : From P ys) : From P (xs.union ys) := fun c hc =>
  (mem_union.mp hc).elim (hx c) (hy c)

theorem from_unions {xss : List Sources} (h : ∀ xs ∈ xss, From P xs) : From P (unions xss) := by
  intro c hc
  obtain ⟨xs, hxs, hc⟩ := mem_unions.mp hc
  exact h xs hxs c hc

theorem from_singleton {c : ColumnRef} (h : P.Allows c) : From P [c] :=
  List.forall_mem_singleton.mpr h

end Sources

/-! ### Relations and scopes -/

/-- A relation is an allowed table, or its columns are computed from allowed ones. -/
structure Relation.From (P : Origins) (r : Relation) : Prop where
  table : ∀ t, r.table = some t → P.tables t
  columns : ∀ os, r.columns = some os → OutputsFrom P os

def Scope.From (P : Origins) (s : Scope) : Prop :=
  ∀ r ∈ s.relations, r.From P

namespace Relation

variable {r : Relation} {column : String} {os : List Output}

/-- What outputs pass on is allowed if they are. -/
theorem from_passedOn (h : OutputsFrom P os) (hcolumn : P.names column) :
    Sources.From P (passedOn os column) := by
  refine Sources.from_unions fun xs hxs => ?_
  obtain ⟨o, ho, rfl⟩ := List.mem_map.mp hxs
  refine Sources.from_unions fun ys hys => ?_
  obtain ⟨c, hc, rfl⟩ := List.mem_map.mp hys
  exact Sources.from_singleton ⟨(h o (List.mem_filter.mp ho).1 c hc).1, .inr (.inr hcolumn)⟩

/-- A relation that is no table goes back to what its outputs do. -/
theorem from_outputs {binding : String} (h : OutputsFrom P os) :
    Relation.From P ⟨binding, none, some os⟩ := by
  constructor
  · rintro _ ⟨⟩
  · rintro _ ⟨⟩
    exact h

/-- A column that is looked up in an allowed relation is allowed. -/
theorem From.lookup (h : r.From P) (hcolumn : P.names column) :
    Sources.From P (r.lookup column) := by
  have htable : ∀ t, r.table = some t → Sources.From P [⟨t, column⟩] := fun t ht =>
    Sources.from_singleton ⟨h.table t ht, .inr (.inr hcolumn)⟩
  simp only [Relation.lookup]
  split
  · split
    · next t ht => exact htable t ht
    · exact Sources.from_nil
  · next os hos =>
    split
    · next o ho =>
      rw [known?, hos] at ho
      exact h.columns os hos o (List.mem_of_find?_eq_some ho)
    · split
      · split
        · next t ht => exact htable t ht
        · exact Sources.from_nil
      · exact from_passedOn (h.columns os hos) hcolumn

/-- All columns of an allowed relation are allowed. -/
theorem From.expand (h : r.From P) : OutputsFrom P r.expand := by
  rw [Relation.expand]
  split
  · next os hos => exact h.columns os hos
  · next t _ ht =>
    intro o ho
    rw [List.mem_singleton.mp ho]
    exact Sources.from_singleton ⟨h.table t ht, .inl rfl⟩
  · simp [OutputsFrom]

end Relation

namespace Scope

variable {s : Scope} {r : Relation}

theorem from_empty : Scope.From P {} := by
  simp [Scope.From]

/-- A scope of allowed relations stays one with one more of them. -/
theorem From.push (h : s.From P) (hr : r.From P) : (s.push r).From P := by
  intro r' hr'
  rcases List.mem_append.mp hr' with hr' | hr'
  · exact h r' hr'
  · exact List.mem_singleton.mp hr' ▸ hr

/-- A qualified column comes from an allowed relation. -/
theorem From.qualified (h : s.From P) (qualifier : String) {column : String}
    (hcolumn : P.names column) : Sources.From P (s.qualified qualifier column) := by
  rw [Scope.qualified]
  split
  · next r hr => exact (h r (List.mem_of_find?_eq_some hr)).lookup hcolumn
  · exact Sources.from_nil

/-- A column without a qualifier comes from allowed relations. -/
theorem From.unqualified (h : s.From P) {column : String} (hcolumn : P.names column) :
    Sources.From P (s.unqualified column) := by
  rw [Scope.unqualified]
  split
  · refine Sources.from_unions fun xs hxs => ?_
    obtain ⟨r, hr, rfl⟩ := List.mem_map.mp hxs
    exact (h r (List.mem_filter.mp hr).1).lookup hcolumn
  · split
    · next r hr => exact (h r (List.mem_of_find?_eq_some hr)).lookup hcolumn
    · split
      · next only honly => exact (h only (honly ▸ List.mem_singleton_self only)).lookup hcolumn
      · split
        · next single hsingle =>
          have hmem : single ∈ s.relations.filter Relation.isOpen :=
            hsingle ▸ List.mem_singleton_self single
          exact (h single (List.mem_filter.mp hmem).1).lookup hcolumn
        · exact Sources.from_nil

/-- An output that joins one of the same name is allowed with it. -/
theorem from_join {os joined : List Output} {o : Output} (hos : OutputsFrom P os)
    (ho : Sources.From P o.sources) (h : addOutput.join o os = some joined) :
    OutputsFrom P joined := by
  induction os generalizing joined with
  | nil => cases h
  | cons p rest ih =>
    have hrest : OutputsFrom P rest := fun q hq => hos q (List.mem_cons_of_mem p hq)
    have hp := hos p (List.mem_cons_self ..)
    rw [addOutput.join] at h
    split at h
    · obtain rfl := Option.some.inj h
      exact List.forall_mem_cons.mpr ⟨hp.union ho, hrest⟩
    · obtain ⟨rest', hjoin, rfl⟩ := Option.map_eq_some_iff.mp h
      exact List.forall_mem_cons.mpr ⟨hp, ih hrest hjoin⟩

/-- An allowed output keeps outputs allowed, whether it joins one of them or not. -/
theorem from_addOutput {merged : List String} {os : List Output} {o : Output}
    (hos : OutputsFrom P os) (ho : Sources.From P o.sources) :
    OutputsFrom P (addOutput merged os o) := by
  have happend : OutputsFrom P (os ++ [o]) :=
    List.forall_mem_append.mpr ⟨hos, List.forall_mem_singleton.mpr ho⟩
  rw [addOutput]
  split
  · cases hjoin : addOutput.join o os with
    | none => exact happend
    | some joined => exact from_join hos ho hjoin
  · exact happend

/-- All columns of a scope of allowed relations are allowed. -/
theorem From.expandAll (h : s.From P) : OutputsFrom P s.expandAll := by
  have hfold : ∀ found outputs, OutputsFrom P found → OutputsFrom P outputs →
      OutputsFrom P (found.foldl (addOutput s.merged) outputs) := by
    intro found
    induction found with
    | nil => exact fun outputs _ houtputs => houtputs
    | cons o found ih =>
      intro outputs hfound houtputs
      obtain ⟨ho, hfound⟩ := List.forall_mem_cons.mp hfound
      exact ih _ hfound (from_addOutput houtputs ho)
  refine hfold _ [] (fun o ho => ?_) (by simp [OutputsFrom])
  obtain ⟨r, hr, ho⟩ := List.mem_flatMap.mp ho
  exact (h r hr).expand o ho

end Scope

/-! ### Outputs -/

/-- Other names do not change where outputs come from. -/
theorem OutputsFrom.renameOutputs {os : List Output} {columns : List AliasColumn}
    (h : OutputsFrom P os) : OutputsFrom P (renameOutputs os columns) := by
  induction os generalizing columns with
  | nil => exact h
  | cons o os ih =>
    cases columns with
    | nil => exact h
    | cons c columns =>
      obtain ⟨ho, hos⟩ := List.forall_mem_cons.mp h
      exact List.forall_mem_cons.mpr ⟨ho, ih hos⟩

/-- Outputs that are merged place by place come from where either side does. -/
theorem OutputsFrom.mergeByPlace {left right : List Output} (hl : OutputsFrom P left)
    (hr : OutputsFrom P right) : OutputsFrom P (mergeByPlace left right) := by
  induction left generalizing right with
  | nil => exact hl
  | cons l left ih =>
    cases right with
    | nil => exact hl
    | cons r right =>
      obtain ⟨hl, hleft⟩ := List.forall_mem_cons.mp hl
      obtain ⟨hr, hright⟩ := List.forall_mem_cons.mp hr
      exact List.forall_mem_cons.mpr ⟨hl.union hr, ih hleft hright⟩

/-- The table that a name stands for: the known one, or else one of this name. -/
def Schema.registered (schema : Schema) (written : String) : String :=
  match schema.find? written with
  | some t => t.name
  | none => written

/-- Names stand for allowed tables unless a clause ahead of the place binds them. -/
def Allowed (P : Origins) (refs : List Reference) : Prop :=
  ∀ r ∈ refs, r.key ∉ r.binders.visible → P.tables (P.schema.registered r.name.path)

/-- The last identifiers of column references are allowed names. -/
def Asked (P : Origins) (paths : List (List Ident)) : Prop :=
  ∀ path ∈ paths, ∀ i, path.getLast? = some i → P.names i.value

/-- The outputs of common table expressions are computed from allowed columns, and their names are
those that are bound at a place. -/
structure CteScope.Covers (P : Origins) (b : Binders) (ctes : CteScope) : Prop where
  names : ctes.map Prod.fst = b.visible
  outputs : ∀ e ∈ ctes, OutputsFrom P e.2

variable {ctes : CteScope} {b : Binders}

theorem allowed_append {refs refs' : List Reference} :
    Allowed P (refs ++ refs') ↔ Allowed P refs ∧ Allowed P refs' :=
  List.forall_mem_append

theorem asked_append {paths paths' : List (List Ident)} :
    Asked P (paths ++ paths') ↔ Asked P paths ∧ Asked P paths' :=
  List.forall_mem_append

/-- Only what is visible matters. -/
theorem CteScope.Covers.congr {b' : Binders} (h : CteScope.Covers P b ctes)
    (hb : b'.visible = b.visible) : CteScope.Covers P b' ctes :=
  ⟨h.names.trans hb.symm, h.outputs⟩

/-- A name stands for a common table expression if one of this name is visible, and else for a
table. -/
theorem CteScope.Covers.namedRelation {name : ObjectName} {label : Option TableAlias}
    (h : CteScope.Covers P b ctes) (hname : Allowed P [⟨name, b⟩]) :
    (namedRelation P.schema ctes name label).From P := by
  simp only [Sql.namedRelation]
  split
  · next outputs houtputs =>
    obtain ⟨before, after, heq, -⟩ := List.lookup_eq_some_iff.mp houtputs
    have hmem : (Text.lower name.path, outputs) ∈ ctes := by simp [heq]
    exact Relation.from_outputs (h.outputs _ hmem)
  · next hnone =>
    have htable : P.tables (P.schema.registered name.path) := by
      refine hname _ (List.mem_singleton_self _) fun hvisible => ?_
      have hbound : Text.lower name.path ∈ ctes.map Prod.fst := h.names ▸ hvisible
      obtain ⟨⟨n, os⟩, hmem, heq⟩ := List.mem_map.mp hbound
      have hne := List.lookup_eq_none_iff.mp hnone (n, os) hmem
      exact bne_iff_ne.mp hne heq.symm
    rw [Schema.registered] at htable
    split
    · next t ht =>
      rw [ht] at htable
      constructor
      · rintro _ ⟨⟩
        exact htable
      · rintro _ ⟨⟩ o ho
        obtain ⟨c, hc, rfl⟩ := List.mem_map.mp ho
        have hknown : P.schema.Declares ⟨t.name, c.name⟩ :=
          ⟨t, (Schema.find?_eq_some ht).1, rfl, List.mem_map_of_mem hc⟩
        exact Sources.from_singleton ⟨htable, .inr (.inl hknown)⟩
    · next hunknown =>
      rw [hunknown] at htable
      constructor
      · rintro _ ⟨⟩
        exact htable
      · rintro _ ⟨⟩

/-- What a definition binds may be referred to by its name from there on. -/
theorem CteScope.Covers.bind {c : Cte} (h : CteScope.Covers P b ctes)
    (hc : OutputsFrom P (c.binding P.schema ctes).2) :
    CteScope.Covers P (b.bind c) (c.binding P.schema ctes :: ctes) := by
  constructor
  case names =>
    rw [List.map_cons, h.names]
    cases c
    rfl
  case outputs =>
    intro e he
    rcases List.mem_cons.mp he with rfl | he
    · exact hc
    · exact h.outputs e he

-- The induction is on the syntax. A clause adds to what is covered before the body of its query is
-- entered, and its definitions are read with what was covered until then, recursive or not.

mutual

/-- If the names that are not bound where they stand in a query stand for allowed tables, and its
column references have allowed names, its outputs are computed from allowed columns. -/
theorem Query.outputs_from {b : Binders} {ctes : CteScope} (h : CteScope.Covers P b ctes) :
    (q : Query) → Allowed P (q.references b) → Asked P q.columnPaths →
      OutputsFrom P (q.outputs P.schema ctes)
  | ⟨isRecursive, cs, body, rest⟩, hrefs, hpaths => by
    have hrefs := allowed_append.mp (allowed_append.mp hrefs).1
    obtain ⟨hcs, hbody⟩ := asked_append.mp hpaths
    have hctes := bindCtes_from h (Binders.visible_enter isRecursive cs) cs hrefs.1 hcs
    exact body.outputs_from hctes hrefs.2 hbody
termination_by structural q => q

/-- The definitions of a clause hold outputs that are computed from allowed columns. -/
theorem bindCtes_from {b inside : Binders} {ctes : CteScope} (h : CteScope.Covers P b ctes)
    (hinside : inside.visible = b.visible) :
    (cs : List Cte) → Allowed P (cteReferences inside cs) → Asked P (cteColumnPaths cs) →
      CteScope.Covers P (cs.foldl Binders.bind b) (bindCtes P.schema ctes cs)
  | [], _, _ => h
  | c :: rest, hrefs, hpaths => by
    obtain ⟨hc, hrest⟩ := allowed_append.mp hrefs
    obtain ⟨hcpaths, hrestpaths⟩ := asked_append.mp hpaths
    have hbinding := c.binding_from (h.congr hinside) hc hcpaths
    exact bindCtes_from (h.bind hbinding) (congrArg (c.boundName :: ·) hinside) rest hrest
      hrestpaths
termination_by structural cs => cs

/-- A definition holds outputs that are computed from allowed columns. -/
theorem Cte.binding_from {b : Binders} {ctes : CteScope} (h : CteScope.Covers P b ctes) :
    (c : Cte) → Allowed P (c.references b) → Asked P c.columnPaths →
      OutputsFrom P (c.binding P.schema ctes).2
  | ⟨_, _, query, _⟩, hrefs, hpaths => (query.outputs_from h hrefs hpaths).renameOutputs
termination_by structural c => c

/-- The outputs of a body are computed from allowed columns. -/
theorem Body.outputs_from {b : Binders} {ctes : CteScope} (h : CteScope.Covers P b ctes) :
    (body : Body) → Allowed P (body.references b) → Asked P body.columnPaths →
      OutputsFrom P (body.outputs P.schema ctes)
  | .select s, hrefs, hpaths => s.outputs_from h hrefs hpaths
  | .query q, hrefs, hpaths => q.outputs_from h hrefs hpaths
  | .setOp left _ right, hrefs, hpaths =>
    (left.outputs_from h (allowed_append.mp hrefs).1 (asked_append.mp hpaths).1).mergeByPlace
      (right.outputs_from h (allowed_append.mp hrefs).2 (asked_append.mp hpaths).2)
  | .other _, _, _ => by simp [Body.outputs, OutputsFrom]
termination_by structural body => body

/-- The outputs of a selection are computed from allowed columns. -/
theorem Select.outputs_from {b : Binders} {ctes : CteScope} (h : CteScope.Covers P b ctes) :
    (s : Select) → Allowed P (s.references b) → Asked P s.columnPaths →
      OutputsFrom P (s.outputs P.schema ctes)
  | ⟨_, head, items, into, sources, rest⟩, hrefs, hpaths => by
    have hrefs : Allowed P (itemReferences b items) ∧ Allowed P (sourceReferences b sources) := by
      simp only [Select.references, allowed_append] at hrefs
      exact ⟨hrefs.1.1.1.2, hrefs.1.2⟩
    obtain ⟨hitems, hsources⟩ := asked_append.mp hpaths
    have hscope := sourceScope_from h Scope.from_empty sources hrefs.2 hsources
    exact itemOutputs_from h hscope items hrefs.1 hitems
termination_by structural s => s

theorem itemOutputs_from {b : Binders} {ctes : CteScope}
    {scope : Scope} (h : CteScope.Covers P b ctes) (hs : scope.From P) :
    (is : List Item) → Allowed P (itemReferences b is) → Asked P (itemColumnPaths is) →
      OutputsFrom P (itemOutputs P.schema ctes scope is)
  | [], _, _ => by simp [itemOutputs, OutputsFrom]
  | i :: rest, hrefs, hpaths => List.forall_mem_append.mpr
    ⟨i.outputs_from h hs (allowed_append.mp hrefs).1 (asked_append.mp hpaths).1,
      itemOutputs_from h hs rest (allowed_append.mp hrefs).2 (asked_append.mp hpaths).2⟩
termination_by structural is => is

theorem Item.outputs_from {b : Binders} {ctes : CteScope}
    {scope : Scope} (h : CteScope.Covers P b ctes) (hs : scope.From P) :
    (i : Item) → Allowed P (i.references b) → Asked P i.columnPaths →
      OutputsFrom P (i.outputs P.schema ctes scope)
  | .unnamed e, hrefs, hpaths => List.forall_mem_singleton.mpr (e.sources_from h hs hrefs hpaths)
  | .aliased e _, hrefs, hpaths => List.forall_mem_singleton.mpr (e.sources_from h hs hrefs hpaths)
  | .wildcard _, _, _ => hs.expandAll
  | .tableWildcard name _, _, _ => by
    rw [Item.outputs]
    split
    · next r hr => exact (hs r (List.mem_of_find?_eq_some hr)).expand
    · simp [OutputsFrom]
  | .exprWildcard _ _, _, _ => by simp [Item.outputs, OutputsFrom]
termination_by structural i => i

/-- The sources of an expression are allowed. -/
theorem Expr.sources_from {b : Binders} {ctes : CteScope}
    {scope : Scope} (h : CteScope.Covers P b ctes) (hs : scope.From P) :
    (e : Expr) → Allowed P (e.references b) → Asked P e.columnPaths →
      Sources.From P (e.sources P.schema ctes scope)
  | .column [], _, _ => Sources.from_nil
  | .column [i], _, hpaths => hs.unqualified (hpaths [i] (List.mem_singleton_self _) i rfl)
  | .column (i :: j :: rest), _, hpaths => by
    have hlast := List.getLast?_eq_some_getLast (List.cons_ne_nil i (j :: rest))
    have hname := hpaths _ (List.mem_singleton_self _) _ hlast
    rw [Expr.sources, hlast]
    exact hs.qualified _ hname
  | .nested inner, hrefs, hpaths => inner.sources_from h hs hrefs hpaths
  | .cast _ inner _, hrefs, hpaths => inner.sources_from h hs hrefs hpaths
  | .literal _, _, _ => Sources.from_nil
  | .call _ rest, hrefs, hpaths => pieceSources_from h hs rest hrefs hpaths
  | .access root steps, hrefs, hpaths =>
    (root.sources_from h hs (allowed_append.mp hrefs).1 (asked_append.mp hpaths).1).union
      (pieceSources_from h hs steps (allowed_append.mp hrefs).2 (asked_append.mp hpaths).2)
  | .phrase pieces, hrefs, hpaths => pieceSources_from h hs pieces hrefs hpaths
termination_by structural e => e

theorem pieceSources_from {b : Binders} {ctes : CteScope}
    {scope : Scope} (h : CteScope.Covers P b ctes) (hs : scope.From P) :
    (ps : List Piece) → Allowed P (pieceReferences b ps) → Asked P (pieceColumnPaths ps) →
      Sources.From P (pieceSources P.schema ctes scope ps)
  | [], _, _ => Sources.from_nil
  | p :: rest, hrefs, hpaths =>
    (p.sources_from h hs (allowed_append.mp hrefs).1 (asked_append.mp hpaths).1).union
      (pieceSources_from h hs rest (allowed_append.mp hrefs).2 (asked_append.mp hpaths).2)
termination_by structural ps => ps

theorem Piece.sources_from {b : Binders} {ctes : CteScope}
    {scope : Scope} (h : CteScope.Covers P b ctes) (hs : scope.From P) :
    (p : Piece) → Allowed P (p.references b) → Asked P p.columnPaths →
      Sources.From P (p.sources P.schema ctes scope)
  | .expr e, hrefs, hpaths => e.sources_from h hs hrefs hpaths
  | .query q, hrefs, hpaths => by
    refine Sources.from_unions fun xs hxs => ?_
    obtain ⟨o, ho, rfl⟩ := List.mem_map.mp hxs
    exact q.outputs_from h hrefs hpaths o ho
  | .text _, _, _ | .table _, _, _ | .factor _, _, _ | .source _, _, _ => Sources.from_nil
termination_by structural p => p

/-- The relations that tables bring into scope are allowed. -/
theorem sourceScope_from {b : Binders} {ctes : CteScope}
    {scope : Scope} (h : CteScope.Covers P b ctes) (hs : scope.From P) :
    (ts : List TableWithJoins) → Allowed P (sourceReferences b ts) →
      Asked P (sourceColumnPaths ts) → (sourceScope P.schema ctes scope ts).From P
  | [], _, _ => hs
  | t :: rest, hrefs, hpaths => by
    have hnext := t.addTo_from h hs (allowed_append.mp hrefs).1 (asked_append.mp hpaths).1
    exact sourceScope_from h hnext rest (allowed_append.mp hrefs).2 (asked_append.mp hpaths).2
termination_by structural ts => ts

theorem TableWithJoins.addTo_from {b : Binders} {ctes : CteScope}
    {scope : Scope} (h : CteScope.Covers P b ctes) (hs : scope.From P) :
    (t : TableWithJoins) → Allowed P (t.references b) → Asked P t.columnPaths →
      (t.addTo P.schema ctes scope).From P
  | ⟨relation, joins⟩, hrefs, hpaths => by
    have hnext := relation.addTo_from h hs (allowed_append.mp hrefs).1 (asked_append.mp hpaths).1
    exact joinScope_from h hnext joins (allowed_append.mp hrefs).2 (asked_append.mp hpaths).2
termination_by structural t => t

theorem joinScope_from {b : Binders} {ctes : CteScope}
    {scope : Scope} (h : CteScope.Covers P b ctes) (hs : scope.From P) :
    (js : List Join) → Allowed P (joinReferences b js) → Asked P (joinColumnPaths js) →
      (joinScope P.schema ctes scope js).From P
  | [], _, _ => hs
  | j :: rest, hrefs, hpaths => by
    have hnext := j.addTo_from h hs (allowed_append.mp hrefs).1 (asked_append.mp hpaths).1
    exact joinScope_from h hnext rest (allowed_append.mp hrefs).2 (asked_append.mp hpaths).2
termination_by structural js => js

theorem Join.addTo_from {b : Binders} {ctes : CteScope}
    {scope : Scope} (h : CteScope.Covers P b ctes) (hs : scope.From P) :
    (j : Join) → Allowed P (j.references b) → Asked P j.columnPaths →
      (j.addTo P.schema ctes scope).From P
  | ⟨_, _, relation, _, _⟩, hrefs, hpaths =>
    relation.addTo_from h hs (allowed_append.mp (allowed_append.mp hrefs).1).1 hpaths
termination_by structural j => j

/-- The relation that a table brings into scope is allowed. -/
theorem TableFactor.addTo_from {b : Binders} {ctes : CteScope}
    {scope : Scope} (h : CteScope.Covers P b ctes) (hs : scope.From P) :
    (f : TableFactor) → Allowed P (f.references b) → Asked P f.columnPaths →
      (f.addTo P.schema ctes scope).From P
  | .table _ _ _ _, hrefs, _ =>
    hs.push (h.namedRelation (List.forall_mem_singleton.mpr (List.forall_mem_cons.mp hrefs).1))
  | .derived _ query label _, hrefs, hpaths => by
    have houtputs := query.outputs_from h (allowed_append.mp hrefs).1 hpaths
    cases label with
    | none => exact hs.push (Relation.from_outputs houtputs)
    | some a => exact hs.push (Relation.from_outputs houtputs.renameOutputs)
  | .nested inner label, hrefs, hpaths => by
    have hnested := inner.addTo_from h Scope.from_empty hrefs hpaths
    cases label with
    | none => exact List.forall_mem_append.mpr ⟨hs, hnested⟩
    | some a => exact hs.push (Relation.from_outputs hnested.expandAll)
  | .other _, _, _ => hs
termination_by structural f => f

end

namespace Statement

variable {schema : Schema} {s : Statement} {o : Output} {c : ColumnRef}

/-- What the names and the column references of the statement ask for. -/
def origins (s : Statement) (schema : Schema) : Origins where
  schema := schema
  tables t := ∃ r ∈ s.references, r.key ∉ r.binders.visible ∧ schema.registered r.name.path = t
  names k := ∃ path ∈ s.columnPaths, path.getLast?.map Ident.value = some k

/-- Upstream columns are allowed by the references of the statement. -/
theorem allows_of_lineage (ho : o ∈ s.lineage schema) (hc : c ∈ o.sources) :
    (s.origins schema).Allows c := by
  cases s with
  | command pieces => cases ho
  | query q =>
    have hempty : CteScope.Covers ((query q).origins schema) {} [] := ⟨rfl, fun e he => nomatch he⟩
    refine q.outputs_from hempty (fun r hr hfree => ?_) (fun path hpath i hi => ?_) o ho c hc
    · exact ⟨r, List.mem_append_left _ hr, hfree, rfl⟩
    · exact ⟨path, hpath, congrArg (Option.map Ident.value) hi⟩

/-- Every table that the lineage of a statement goes back to is what a name of it stands for, where
no clause ahead of the name binds it. -/
theorem exists_reference_of_lineage (ho : o ∈ s.lineage schema) (hc : c ∈ o.sources) :
    ∃ r ∈ s.references, r.key ∉ r.binders.visible ∧ schema.registered r.name.path = c.table :=
  (allows_of_lineage ho hc).1

/-- A column that the lineage of a statement goes back to is all columns of its table, or is known
of its table, or is what a column reference ends in. -/
theorem column_of_lineage (ho : o ∈ s.lineage schema) (hc : c ∈ o.sources) :
    c.column = "*" ∨ schema.Declares c ∨
      ∃ path ∈ s.columnPaths, path.getLast?.map Ident.value = some c.column :=
  (allows_of_lineage ho hc).2

end Statement

end AssetFlow.Sql
