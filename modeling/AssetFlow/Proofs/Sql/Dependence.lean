import AssetFlow.Proofs.Sql.KnownTables
import AssetFlow.Proofs.Sql.References
import AssetFlow.Sql.Lineage

/-!
# What lineage depends on

Lineage looks tables up by name and takes the names of their columns, and nothing else: the order of
the known tables and the types of their columns make no difference. Of the common table expressions
in scope around a query, its outputs depend on those only whose names stand in the query where no
clause ahead of the place binds them. So the outputs are the same for alike schemas and in scopes
that hold the same under these names (`Query.outputs_congr`).

## Main definitions

- `FreeNames`: the names that no clause ahead of them binds have a property
- `CteScope.Agree`: two scopes hold the same under some names

## Main statements

- `Query.outputs_congr`: what the outputs of a query depend on
- `columnLineage_congr`: lineage is the same for alike schemas
-/

namespace AssetFlow.Sql

variable {N : String → Prop} {s s' : Schema} {b : Binders} {ctes ctes' : CteScope}

/-- A name stands for the same relation in alike schemas. -/
theorem namedRelation_congr (h : s.Alike s') (name : ObjectName) (label : Option TableAlias) :
    namedRelation s ctes name label = namedRelation s' ctes name label := by
  have hshape := h name.path
  simp only [namedRelation]
  split
  · rfl
  · cases hfind : s.find? name.path with
    | none =>
      rw [hfind] at hshape
      have hnone : s'.find? name.path = none := by simpa using hshape.symm
      rw [hnone]
    | some t =>
      rw [hfind] at hshape
      obtain ⟨t', ht', hsame⟩ := Option.map_eq_some_iff.mp hshape.symm
      obtain ⟨hname, hcolumns⟩ := Prod.mk.inj hsame
      have houtputs : ∀ columns : List SchemaColumn,
          columns.map (fun c => (⟨c.name, [⟨t.name, c.name⟩]⟩ : Output)) =
            (columns.map SchemaColumn.name).map fun c => ⟨c, [⟨t.name, c⟩]⟩ := fun columns => by
        rw [List.map_map]
        rfl
      simp only [ht', hname, houtputs, hcolumns]

/-- The names that no clause ahead of the place binds have a property. -/
def FreeNames (N : String → Prop) (refs : List Reference) : Prop :=
  ∀ r ∈ refs, r.key ∉ r.binders.visible → N r.key

/-- The scopes hold the same under the names that are bound at a place, and under others that have a
property. -/
def CteScope.Agree (N : String → Prop) (b : Binders) (ctes ctes' : CteScope) : Prop :=
  ∀ n, n ∈ b.visible ∨ N n → ctes.lookup n = ctes'.lookup n

/-- The free names of two rows of references are those of either. -/
theorem freeNames_append {refs refs' : List Reference} :
    FreeNames N (refs ++ refs') ↔ FreeNames N refs ∧ FreeNames N refs' :=
  List.forall_mem_append

/-- All names have the property that every name has. -/
theorem freeNames_true {refs : List Reference} : FreeNames (fun _ => True) refs :=
  fun _ _ _ => trivial

namespace CteScope.Agree

theorem refl (b : Binders) (ctes : CteScope) : Agree N b ctes ctes := fun _ _ => rfl

/-- Only what is visible matters. -/
theorem congr {b' : Binders} (h : Agree N b ctes ctes') (hb : b'.visible = b.visible) :
    Agree N b' ctes ctes' := fun n hn => h n (hb ▸ hn)

/-- Scopes still agree when a definition binds the same outputs in both. -/
theorem bind {d : Cte} {outputs : List Output} (h : Agree N b ctes ctes') :
    Agree N (b.bind d) ((d.boundName, outputs) :: ctes) ((d.boundName, outputs) :: ctes') := by
  intro n hn
  by_cases heq : n = d.boundName
  · subst heq
    rw [List.lookup_cons_self, List.lookup_cons_self]
  · have hn : n ∈ b.visible ∨ N n :=
      hn.imp_left fun hmem => (List.mem_cons.mp hmem).resolve_left heq
    have hne : (n == d.boundName) = false := beq_eq_false_iff_ne.mpr heq
    rw [List.lookup_cons, List.lookup_cons, hne]
    exact h n hn

/-- A free name stands for the same relation in scopes that agree on it. -/
theorem namedRelation {name : ObjectName} {label : Option TableAlias} (h : Agree N b ctes ctes')
    (hs : s.Alike s') (hname : FreeNames N [⟨name, b⟩]) :
    namedRelation s ctes name label = namedRelation s' ctes' name label := by
  have hlookup : ctes.lookup (Text.lower name.path) = ctes'.lookup (Text.lower name.path) := by
    refine h _ ?_
    by_cases hvisible : Text.lower name.path ∈ b.visible
    · exact .inl hvisible
    · exact .inr (hname _ (List.mem_singleton_self _) hvisible)
  rw [namedRelation_congr hs]
  simp only [Sql.namedRelation, hlookup]

end CteScope.Agree

/-- A definition binds the outputs of its query, renamed by its list of columns. -/
theorem Cte.binding_eq (c : Cte) : c.binding s ctes =
    (c.boundName, renameOutputs (c.query.outputs s ctes) c.label.columns) := by
  cases c
  rfl

-- The induction is on the syntax. The definitions of a clause bind the same outputs in both scopes,
-- so the scopes agree on more when the body of its query is entered.

mutual

/-- The outputs of a query are the same for alike schemas and in scopes that agree on its free
names. -/
theorem Query.outputs_congr {b : Binders} {ctes ctes' : CteScope}
    (hs : s.Alike s') (h : CteScope.Agree N b ctes ctes') :
    (q : Query) → FreeNames N (q.references b) → q.outputs s ctes = q.outputs s' ctes'
  | ⟨isRecursive, cs, body, rest⟩, hrefs => by
    have hrefs := freeNames_append.mp (freeNames_append.mp hrefs).1
    have hctes := bindCtes_congr hs h (Binders.visible_enter isRecursive cs) cs hrefs.1
    exact body.outputs_congr hs hctes hrefs.2
termination_by structural q => q

/-- The definitions of a clause leave scopes that agree on the names that they bind as well. -/
theorem bindCtes_congr {b inside : Binders} {ctes ctes' : CteScope}
    (hs : s.Alike s') (h : CteScope.Agree N b ctes ctes') (hinside : inside.visible = b.visible) :
    (cs : List Cte) → FreeNames N (cteReferences inside cs) →
      CteScope.Agree N (cs.foldl Binders.bind b) (bindCtes s ctes cs)
        (bindCtes s' ctes' cs)
  | [], _ => h
  | c :: rest, hrefs => by
    obtain ⟨hc, hrest⟩ := freeNames_append.mp hrefs
    have hbind : CteScope.Agree N (b.bind c) (c.binding s ctes :: ctes)
        (c.binding s' ctes' :: ctes') := by
      rw [← c.binding_congr hs (h.congr hinside) hc, c.binding_eq]
      exact h.bind
    exact bindCtes_congr hs hbind (congrArg (c.boundName :: ·) hinside) rest hrest
termination_by structural cs => cs

/-- A definition binds the same outputs in both scopes. -/
theorem Cte.binding_congr {b : Binders} {ctes ctes' : CteScope}
    (hs : s.Alike s') (h : CteScope.Agree N b ctes ctes') :
    (c : Cte) → FreeNames N (c.references b) → c.binding s ctes = c.binding s' ctes'
  | ⟨label, hint, query, source⟩, hrefs => by
    rw [Cte.binding, Cte.binding, query.outputs_congr hs h hrefs]
termination_by structural c => c

/-- The outputs of a body depend on its free names only. -/
theorem Body.outputs_congr {b : Binders} {ctes ctes' : CteScope}
    (hs : s.Alike s') (h : CteScope.Agree N b ctes ctes') :
    (body : Body) → FreeNames N (body.references b) →
      body.outputs s ctes = body.outputs s' ctes'
  | .select x, hrefs => x.outputs_congr hs h hrefs
  | .query q, hrefs => q.outputs_congr hs h hrefs
  | .setOp left _ right, hrefs =>
    congrArg₂ mergeByPlace (left.outputs_congr hs h (freeNames_append.mp hrefs).1)
      (right.outputs_congr hs h (freeNames_append.mp hrefs).2)
  | .other _, _ => rfl
termination_by structural body => body

/-- The outputs of a selection depend on its free names only. -/
theorem Select.outputs_congr {b : Binders} {ctes ctes' : CteScope}
    (hs : s.Alike s') (h : CteScope.Agree N b ctes ctes') :
    (x : Select) → FreeNames N (x.references b) →
      x.outputs s ctes = x.outputs s' ctes'
  | ⟨_, head, items, into, sources, rest⟩, hrefs => by
    have hrefs : FreeNames N (itemReferences b items) ∧
        FreeNames N (sourceReferences b sources) := by
      simp only [Select.references, freeNames_append] at hrefs
      exact ⟨hrefs.1.1.1.2, hrefs.1.2⟩
    rw [Select.outputs, Select.outputs, sourceScope_congr hs h {} sources hrefs.2,
      itemOutputs_congr hs h _ items hrefs.1]
termination_by structural x => x

theorem itemOutputs_congr {b : Binders} {ctes ctes' : CteScope}
    (hs : s.Alike s') (h : CteScope.Agree N b ctes ctes') (scope : Scope) :
    (is : List Item) → FreeNames N (itemReferences b is) →
      itemOutputs s ctes scope is = itemOutputs s' ctes' scope is
  | [], _ => rfl
  | i :: rest, hrefs =>
    congrArg₂ (· ++ ·) (i.outputs_congr hs h scope (freeNames_append.mp hrefs).1)
      (itemOutputs_congr hs h scope rest (freeNames_append.mp hrefs).2)
termination_by structural is => is

theorem Item.outputs_congr {b : Binders} {ctes ctes' : CteScope}
    (hs : s.Alike s') (h : CteScope.Agree N b ctes ctes') (scope : Scope) :
    (i : Item) → FreeNames N (i.references b) →
      i.outputs s ctes scope = i.outputs s' ctes' scope
  | .unnamed e, hrefs => by rw [Item.outputs, Item.outputs, e.sources_congr hs h scope hrefs]
  | .aliased e _, hrefs => by rw [Item.outputs, Item.outputs, e.sources_congr hs h scope hrefs]
  | .wildcard _, _ | .tableWildcard _ _, _ | .exprWildcard _ _, _ => rfl
termination_by structural i => i

/-- The sources of an expression depend on its free names only. -/
theorem Expr.sources_congr {b : Binders} {ctes ctes' : CteScope}
    (hs : s.Alike s') (h : CteScope.Agree N b ctes ctes') (scope : Scope) :
    (e : Expr) → FreeNames N (e.references b) →
      e.sources s ctes scope = e.sources s' ctes' scope
  | .column [], _ | .column [_], _ | .column (_ :: _ :: _), _ | .literal _, _ => rfl
  | .nested inner, hrefs => inner.sources_congr hs h scope hrefs
  | .cast _ inner _, hrefs => inner.sources_congr hs h scope hrefs
  | .call _ rest, hrefs => pieceSources_congr hs h scope rest hrefs
  | .access root steps, hrefs =>
    congrArg₂ Sources.union (root.sources_congr hs h scope (freeNames_append.mp hrefs).1)
      (pieceSources_congr hs h scope steps (freeNames_append.mp hrefs).2)
  | .phrase pieces, hrefs => pieceSources_congr hs h scope pieces hrefs
termination_by structural e => e

theorem pieceSources_congr {b : Binders} {ctes ctes' : CteScope}
    (hs : s.Alike s') (h : CteScope.Agree N b ctes ctes') (scope : Scope) :
    (ps : List Piece) → FreeNames N (pieceReferences b ps) →
      pieceSources s ctes scope ps = pieceSources s' ctes' scope ps
  | [], _ => rfl
  | p :: rest, hrefs =>
    congrArg₂ Sources.union (p.sources_congr hs h scope (freeNames_append.mp hrefs).1)
      (pieceSources_congr hs h scope rest (freeNames_append.mp hrefs).2)
termination_by structural ps => ps

theorem Piece.sources_congr {b : Binders} {ctes ctes' : CteScope}
    (hs : s.Alike s') (h : CteScope.Agree N b ctes ctes') (scope : Scope) :
    (p : Piece) → FreeNames N (p.references b) →
      p.sources s ctes scope = p.sources s' ctes' scope
  | .expr e, hrefs => e.sources_congr hs h scope hrefs
  | .query q, hrefs => by rw [Piece.sources, Piece.sources, q.outputs_congr hs h hrefs]
  | .text _, _ | .table _, _ | .factor _, _ | .source _, _ => rfl
termination_by structural p => p

/-- The relations that tables bring into scope depend on their free names only. -/
theorem sourceScope_congr {b : Binders} {ctes ctes' : CteScope}
    (hs : s.Alike s') (h : CteScope.Agree N b ctes ctes') (scope : Scope) :
    (ts : List TableWithJoins) → FreeNames N (sourceReferences b ts) →
      sourceScope s ctes scope ts = sourceScope s' ctes' scope ts
  | [], _ => rfl
  | t :: rest, hrefs => by
    rw [sourceScope, sourceScope, t.addTo_congr hs h scope (freeNames_append.mp hrefs).1,
      sourceScope_congr hs h _ rest (freeNames_append.mp hrefs).2]
termination_by structural ts => ts

theorem TableWithJoins.addTo_congr {b : Binders} {ctes ctes' : CteScope}
    (hs : s.Alike s') (h : CteScope.Agree N b ctes ctes') (scope : Scope) :
    (t : TableWithJoins) → FreeNames N (t.references b) →
      t.addTo s ctes scope = t.addTo s' ctes' scope
  | ⟨relation, joins⟩, hrefs => by
    rw [TableWithJoins.addTo, TableWithJoins.addTo,
      relation.addTo_congr hs h scope (freeNames_append.mp hrefs).1,
      joinScope_congr hs h _ joins (freeNames_append.mp hrefs).2]
termination_by structural t => t

theorem joinScope_congr {b : Binders} {ctes ctes' : CteScope}
    (hs : s.Alike s') (h : CteScope.Agree N b ctes ctes') (scope : Scope) :
    (js : List Join) → FreeNames N (joinReferences b js) →
      joinScope s ctes scope js = joinScope s' ctes' scope js
  | [], _ => rfl
  | j :: rest, hrefs => by
    rw [joinScope, joinScope, j.addTo_congr hs h scope (freeNames_append.mp hrefs).1,
      joinScope_congr hs h _ rest (freeNames_append.mp hrefs).2]
termination_by structural js => js

theorem Join.addTo_congr {b : Binders} {ctes ctes' : CteScope}
    (hs : s.Alike s') (h : CteScope.Agree N b ctes ctes') (scope : Scope) :
    (j : Join) → FreeNames N (j.references b) →
      j.addTo s ctes scope = j.addTo s' ctes' scope
  | ⟨_, _, relation, _, _⟩, hrefs => by
    have hrelation := (freeNames_append.mp (freeNames_append.mp hrefs).1).1
    rw [Join.addTo, Join.addTo, relation.addTo_congr hs h scope hrelation]
termination_by structural j => j

/-- The relations that a table brings into scope depend on its free names only. -/
theorem TableFactor.addTo_congr {b : Binders} {ctes ctes' : CteScope}
    (hs : s.Alike s') (h : CteScope.Agree N b ctes ctes') (scope : Scope) :
    (f : TableFactor) → FreeNames N (f.references b) →
      f.addTo s ctes scope = f.addTo s' ctes' scope
  | .table name _ label _, hrefs => by
    have hname : FreeNames N [⟨name, b⟩] :=
      List.forall_mem_singleton.mpr (List.forall_mem_cons.mp hrefs).1
    rw [TableFactor.addTo, TableFactor.addTo, h.namedRelation hs hname]
  | .derived _ query label _, hrefs => by
    have houtputs := query.outputs_congr hs h (freeNames_append.mp hrefs).1
    cases label <;> simp only [TableFactor.addTo, houtputs]
  | .nested inner label, hrefs => by
    have hnested := inner.addTo_congr hs h {} hrefs
    cases label <;> simp only [TableFactor.addTo, hnested]
  | .other _, _ => rfl
termination_by structural f => f

end

/-- **Lineage depends on the known tables by their names and those of their columns only.** -/
theorem columnLineage_congr (hs : s.Alike s') (d : Dialect) (sql : String) :
    columnLineage d s sql = columnLineage d s' sql := by
  have hlineage : ∀ x : Statement, x.lineage s = x.lineage s' := by
    intro x
    cases x with
    | query q => exact q.outputs_congr hs (.refl {} []) freeNames_true
    | command pieces => rfl
  simp only [columnLineage, hlineage]

end AssetFlow.Sql
