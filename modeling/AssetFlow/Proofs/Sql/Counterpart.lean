import AssetFlow.Proofs.Sql.Matching

/-!
# Queries that correspond to one another

Two queries, each with its own known tables, that differ only in some of the relations that they
read have matching outputs if the relations match: the outputs have the same names, and their
sources correspond. Each reference must be read from relations at the same place. This is so for all
references of a query that is read twice, if each named table answers to the same qualifiers both
times.

## Main definitions

- `Query.Counterpart` and its companions: queries that differ only in some relations
- `Corresponds`: what is asked of the known tables and of the relations that differ
- `Relation.AnswersAlike`, `Schema.AnswersAlike`: relations that answer to the same qualifiers

## Main statements

- `Query.outputs_match`: corresponding queries have matching outputs
- `Query.counterpart_self`: where relations answer alike, each query corresponds to itself
-/

namespace AssetFlow.Sql

variable {S : Sources → Sources → Prop}

/-! ### Corresponding queries -/

section Counterparts

variable (s s' : Schema) (F : CteScope → TableFactor → TableFactor → Prop)

-- The scopes that references are read in, and those of common table expressions, are the ones that
-- lineage builds on its way down each of the two queries.

mutual

/-- Queries that differ only in relations that `F` replaces, and in what lineage does not read. -/
inductive Query.Counterpart : CteScope → CteScope → Query → Query → Prop
  | query {ctes ctes' recursive recursive' definitions definitions' body body' rest rest'} :
    CtesCounterpart ctes ctes' definitions definitions' →
    Body.Counterpart (bindCtes s ctes definitions) (bindCtes s' ctes' definitions') body body' →
    Query.Counterpart ctes ctes' ⟨recursive, definitions, body, rest⟩
      ⟨recursive', definitions', body', rest'⟩

inductive CtesCounterpart : CteScope → CteScope → List Cte → List Cte → Prop
  | nil {ctes ctes'} : CtesCounterpart ctes ctes' [] []
  | cons {ctes ctes' label hint hint' query query' source source' rest rest'} :
    Query.Counterpart ctes ctes' query query' →
    CtesCounterpart (Cte.binding s ctes ⟨label, hint, query, source⟩ :: ctes)
      (Cte.binding s' ctes' ⟨label, hint', query', source'⟩ :: ctes') rest rest' →
    CtesCounterpart ctes ctes' (⟨label, hint, query, source⟩ :: rest)
      (⟨label, hint', query', source'⟩ :: rest')

inductive Body.Counterpart : CteScope → CteScope → Body → Body → Prop
  | select {ctes ctes' first first' head head' items items' into into' sources sources' rest
      rest'} :
    SourcesCounterpart ctes ctes' sources sources' →
    ItemsCounterpart ctes ctes' (sourceScope s ctes {} sources) (sourceScope s' ctes' {} sources')
      items items' →
    Body.Counterpart ctes ctes' (.select ⟨first, head, items, into, sources, rest⟩)
      (.select ⟨first', head', items', into', sources', rest'⟩)
  | query {ctes ctes' q q'} : Query.Counterpart ctes ctes' q q' →
    Body.Counterpart ctes ctes' (.query q) (.query q')
  | setOp {ctes ctes' left left' op op' right right'} : Body.Counterpart ctes ctes' left left' →
    Body.Counterpart ctes ctes' right right' →
    Body.Counterpart ctes ctes' (.setOp left op right) (.setOp left' op' right')
  | other {ctes ctes' pieces pieces'} : Body.Counterpart ctes ctes' (.other pieces) (.other pieces')

inductive ItemsCounterpart : CteScope → CteScope → Scope → Scope → List Item → List Item → Prop
  | nil {ctes ctes' own own'} : ItemsCounterpart ctes ctes' own own' [] []
  | cons {ctes ctes' own own' i i' rest rest'} : Item.Counterpart ctes ctes' own own' i i' →
    ItemsCounterpart ctes ctes' own own' rest rest' →
    ItemsCounterpart ctes ctes' own own' (i :: rest) (i' :: rest')

inductive Item.Counterpart : CteScope → CteScope → Scope → Scope → Item → Item → Prop
  | unnamed {ctes ctes' own own' e e'} : Expr.Counterpart ctes ctes' own own' e e' →
    e.outputName = e'.outputName → Item.Counterpart ctes ctes' own own' (.unnamed e) (.unnamed e')
  | aliased {ctes ctes' own own' e e' label} : Expr.Counterpart ctes ctes' own own' e e' →
    Item.Counterpart ctes ctes' own own' (.aliased e label) (.aliased e' label)
  | wildcard {ctes ctes' own own' options options'} :
    Item.Counterpart ctes ctes' own own' (.wildcard options) (.wildcard options')
  | tableWildcard {ctes ctes' own own' name options options'} :
    own.place? name.path = own'.place? name.path →
    Item.Counterpart ctes ctes' own own' (.tableWildcard name options)
      (.tableWildcard name options')
  | exprWildcard {ctes ctes' own own' e e' options options'} :
    Item.Counterpart ctes ctes' own own' (.exprWildcard e options) (.exprWildcard e' options')

inductive Expr.Counterpart : CteScope → CteScope → Scope → Scope → Expr → Expr → Prop
  | column {ctes ctes' own own' path} : own.readsAlike own' path = true →
    Expr.Counterpart ctes ctes' own own' (.column path) (.column path)
  | nested {ctes ctes' own own' e e'} : Expr.Counterpart ctes ctes' own own' e e' →
    Expr.Counterpart ctes ctes' own own' (.nested e) (.nested e')
  | cast {ctes ctes' own own' before before' e e' after after'} :
    Expr.Counterpart ctes ctes' own own' e e' →
    Expr.Counterpart ctes ctes' own own' (.cast before e after) (.cast before' e' after')
  | literal {ctes ctes' own own' spelling spelling'} :
    Expr.Counterpart ctes ctes' own own' (.literal spelling) (.literal spelling')
  | call {ctes ctes' own own' name name' rest rest'} :
    PiecesCounterpart ctes ctes' own own' rest rest' →
    Expr.Counterpart ctes ctes' own own' (.call name rest) (.call name' rest')
  | access {ctes ctes' own own' root root' steps steps'} :
    Expr.Counterpart ctes ctes' own own' root root' →
    PiecesCounterpart ctes ctes' own own' steps steps' →
    Expr.Counterpart ctes ctes' own own' (.access root steps) (.access root' steps')
  | phrase {ctes ctes' own own' pieces pieces'} :
    PiecesCounterpart ctes ctes' own own' pieces pieces' →
    Expr.Counterpart ctes ctes' own own' (.phrase pieces) (.phrase pieces')

inductive PiecesCounterpart :
    CteScope → CteScope → Scope → Scope → List Piece → List Piece → Prop
  | nil {ctes ctes' own own'} : PiecesCounterpart ctes ctes' own own' [] []
  | cons {ctes ctes' own own' p p' rest rest'} : Piece.Counterpart ctes ctes' own own' p p' →
    PiecesCounterpart ctes ctes' own own' rest rest' →
    PiecesCounterpart ctes ctes' own own' (p :: rest) (p' :: rest')

inductive Piece.Counterpart : CteScope → CteScope → Scope → Scope → Piece → Piece → Prop
  | text {ctes ctes' own own' t t'} : Piece.Counterpart ctes ctes' own own' (.text t) (.text t')
  | expr {ctes ctes' own own' e e'} : Expr.Counterpart ctes ctes' own own' e e' →
    Piece.Counterpart ctes ctes' own own' (.expr e) (.expr e')
  | query {ctes ctes' own own' q q'} : Query.Counterpart ctes ctes' q q' →
    Piece.Counterpart ctes ctes' own own' (.query q) (.query q')
  | table {ctes ctes' own own' name name'} :
    Piece.Counterpart ctes ctes' own own' (.table name) (.table name')
  | factor {ctes ctes' own own' f f'} :
    Piece.Counterpart ctes ctes' own own' (.factor f) (.factor f')
  | source {ctes ctes' own own' t t'} :
    Piece.Counterpart ctes ctes' own own' (.source t) (.source t')

inductive SourcesCounterpart :
    CteScope → CteScope → List TableWithJoins → List TableWithJoins → Prop
  | nil {ctes ctes'} : SourcesCounterpart ctes ctes' [] []
  | cons {ctes ctes' t t' rest rest'} : TableWithJoins.Counterpart ctes ctes' t t' →
    SourcesCounterpart ctes ctes' rest rest' →
    SourcesCounterpart ctes ctes' (t :: rest) (t' :: rest')

inductive TableWithJoins.Counterpart :
    CteScope → CteScope → TableWithJoins → TableWithJoins → Prop
  | joined {ctes ctes' relation relation' joins joins'} :
    TableFactor.Counterpart ctes ctes' relation relation' →
    JoinsCounterpart ctes ctes' joins joins' →
    TableWithJoins.Counterpart ctes ctes' ⟨relation, joins⟩ ⟨relation', joins'⟩

inductive JoinsCounterpart : CteScope → CteScope → List Join → List Join → Prop
  | nil {ctes ctes'} : JoinsCounterpart ctes ctes' [] []
  | cons {ctes ctes' isGlobal isGlobal' kind kind' relation relation' matching matching' constraint
      constraint' rest rest'} : TableFactor.Counterpart ctes ctes' relation relation' →
    mergedColumns kind constraint = mergedColumns kind' constraint' →
    JoinsCounterpart ctes ctes' rest rest' →
    JoinsCounterpart ctes ctes' (⟨isGlobal, kind, relation, matching, constraint⟩ :: rest)
      (⟨isGlobal', kind', relation', matching', constraint'⟩ :: rest')

inductive TableFactor.Counterpart : CteScope → CteScope → TableFactor → TableFactor → Prop
  | table {ctes ctes' name arguments arguments' label hints hints'} :
    TableFactor.Counterpart ctes ctes' (.table name arguments label hints)
      (.table name arguments' label hints')
  | derived {ctes ctes' lateral lateral' q q' label sample sample'} :
    Query.Counterpart ctes ctes' q q' →
    TableFactor.Counterpart ctes ctes' (.derived lateral q label sample)
      (.derived lateral' q' label sample')
  | nested {ctes ctes' inner inner' label} : TableWithJoins.Counterpart ctes ctes' inner inner' →
    TableFactor.Counterpart ctes ctes' (.nested inner label) (.nested inner' label)
  | other {ctes ctes' pieces pieces'} :
    TableFactor.Counterpart ctes ctes' (.other pieces) (.other pieces')
  | replaced {ctes ctes' f f'} : F ctes f f' → TableFactor.Counterpart ctes ctes' f f'

end

end Counterparts

/-- The same names are bound to matching outputs. -/
def CteScope.Matches (S : Sources → Sources → Prop) (ctes ctes' : CteScope) : Prop :=
  ∀ name, Option.Rel (OutputsMatch S) (ctes.lookup name) (ctes'.lookup name)

/-- The tables have the same columns, and their columns correspond. -/
structure SchemaTable.Matches (S : Sources → Sources → Prop) (t t' : SchemaTable) : Prop where
  columns_eq : t.columns.map SchemaColumn.name = t'.columns.map SchemaColumn.name
  sources : ∀ column, S [⟨t.name, column⟩] [⟨t'.name, column⟩]

/-- What is asked of the known tables, and of relations that replace one another: each of two is one
relation, and they match. -/
structure Corresponds (S : Sources → Sources → Prop) (s s' : Schema)
    (F : CteScope → TableFactor → TableFactor → Prop) : Prop where
  kept : Sources.Kept S
  known : ∀ written, Option.Rel (SchemaTable.Matches S) (s.find? written) (s'.find? written)
  unknown : ∀ written, s.find? written = none → ∀ column, S [⟨written, column⟩] [⟨written, column⟩]
  replaced : ∀ {ctes ctes' f f'}, CteScope.Matches S ctes ctes' → F ctes f f' →
    ∃ r r', Relation.Matches S r r' ∧ (∀ own, f.addTo s ctes own = own.push r) ∧
      ∀ own, f'.addTo s' ctes' own = own.push r'

variable {s s' : Schema} {F : CteScope → TableFactor → TableFactor → Prop}

theorem CteScope.Matches.empty : CteScope.Matches S [] [] :=
  fun _ => .none

/-- Matching outputs under one more name keep scopes matching. -/
theorem CteScope.Matches.bind {ctes ctes' : CteScope} (h : CteScope.Matches S ctes ctes')
    (name : String) {os os' : List Output} (hos : OutputsMatch S os os') :
    CteScope.Matches S ((name, os) :: ctes) ((name, os') :: ctes') := by
  intro asked
  rw [List.lookup_cons, List.lookup_cons]
  split
  · exact .some hos
  · exact h asked

/-- Matching tables have matching columns. -/
theorem SchemaTable.Matches.outputs {t t' : SchemaTable} (h : t.Matches S t') :
    OutputsMatch S (t.columns.map fun c => ⟨c.name, [⟨t.name, c.name⟩]⟩)
      (t'.columns.map fun c => ⟨c.name, [⟨t'.name, c.name⟩]⟩) := by
  have hnames : ∀ t : SchemaTable,
      (t.columns.map fun c => (⟨c.name, [⟨t.name, c.name⟩]⟩ : Output)) =
        (t.columns.map SchemaColumn.name).map fun n => ⟨n, [⟨t.name, n⟩]⟩ := by
    intro t
    rw [List.map_map]
    rfl
  rw [hnames, hnames, ← h.columns_eq]
  refine List.forall₂_map_left_iff.mpr (List.forall₂_map_right_iff.mpr ?_)
  exact List.forall₂_same.mpr fun n _ => ⟨rfl, h.sources n⟩

namespace Corresponds

variable {ctes ctes' : CteScope}

/-- One name stands for matching relations in both scopes. -/
theorem namedRelation (h : Corresponds S s s' F) (hctes : CteScope.Matches S ctes ctes')
    (name : ObjectName) (label : Option TableAlias) :
    Relation.Matches S (namedRelation s ctes name label) (namedRelation s' ctes' name label) := by
  have hbound := hctes (Text.lower name.path)
  simp only [AssetFlow.Sql.namedRelation]
  generalize ctes.lookup (Text.lower name.path) = os?,
    ctes'.lookup (Text.lower name.path) = os?' at hbound ⊢
  cases hbound with
  | some hos => exact .derived _ hos
  | none =>
    have hknown := h.known name.path
    have hunknown := h.unknown name.path
    generalize s.find? name.path = t?, s'.find? name.path = t?' at hknown hunknown ⊢
    cases hknown with
    | some ht =>
      refine ⟨.some ht.outputs, ?_, .inl rfl⟩
      rintro _ _ ⟨⟩ ⟨⟩
      exact ht.sources
    | none =>
      refine ⟨.none, ?_, .inl rfl⟩
      rintro _ _ ⟨⟩ ⟨⟩
      exact hunknown rfl

end Corresponds

/-! ### Outputs of corresponding queries -/

-- The induction is on the first of the two trees; the scopes of common table expressions and of
-- each select match on the way.

mutual

/-- Corresponding queries have matching outputs. -/
theorem Query.outputs_match (h : Corresponds S s s' F) {ctes ctes' : CteScope}
    (hctes : CteScope.Matches S ctes ctes') : (q q' : Query) →
    q.Counterpart s s' F ctes ctes' q' → OutputsMatch S (q.outputs s ctes) (q'.outputs s' ctes')
  | ⟨_, definitions, body, _⟩, ⟨_, _, _, _⟩, .query hdefinitions hbody =>
    body.outputs_match h (bindCtes_match h hctes definitions _ hdefinitions) _ hbody
termination_by structural q => q

/-- The clauses of corresponding queries bind matching outputs. -/
theorem bindCtes_match (h : Corresponds S s s' F) {ctes ctes' : CteScope}
    (hctes : CteScope.Matches S ctes ctes') : (ds ds' : List Cte) →
    CtesCounterpart s s' F ctes ctes' ds ds' →
    CteScope.Matches S (bindCtes s ctes ds) (bindCtes s' ctes' ds')
  | [], _, .nil => hctes
  | ⟨label, _, query, _⟩ :: rest, _, .cons hquery hrest =>
    have houtputs := query.outputs_match h hctes _ hquery
    bindCtes_match h (hctes.bind (Text.lower label.name.value)
      (houtputs.renameOutputs label.columns)) rest _ hrest
termination_by structural ds => ds

/-- Corresponding bodies have matching outputs. -/
theorem Body.outputs_match (h : Corresponds S s s' F) {ctes ctes' : CteScope}
    (hctes : CteScope.Matches S ctes ctes') : (b b' : Body) →
    b.Counterpart s s' F ctes ctes' b' → OutputsMatch S (b.outputs s ctes) (b'.outputs s' ctes')
  | .select ⟨_, _, items, _, sources, _⟩, _, .select hsources hitems =>
    itemOutputs_match h hctes (sourceScope_match h hctes .empty sources _ hsources) items _ hitems
  | .query q, _, .query hq => q.outputs_match h hctes _ hq
  | .setOp left _ right, _, .setOp hleft hright =>
    (left.outputs_match h hctes _ hleft).mergeByPlace h.kept (right.outputs_match h hctes _ hright)
  | .other _, _, .other => .nil
termination_by structural b => b

/-- Corresponding projections have matching outputs. -/
theorem itemOutputs_match (h : Corresponds S s s' F) {ctes ctes' : CteScope} {own own' : Scope}
    (hctes : CteScope.Matches S ctes ctes') (hown : own.Matches S own') : (is is' : List Item) →
    ItemsCounterpart s s' F ctes ctes' own own' is is' →
    OutputsMatch S (itemOutputs s ctes own is) (itemOutputs s' ctes' own' is')
  | [], _, .nil => .nil
  | i :: rest, _, .cons hi hrest => List.rel_append (i.outputs_match h hctes hown _ hi)
    (itemOutputs_match h hctes hown rest _ hrest)
termination_by structural is => is

/-- Corresponding items have matching outputs. -/
theorem Item.outputs_match (h : Corresponds S s s' F) {ctes ctes' : CteScope} {own own' : Scope}
    (hctes : CteScope.Matches S ctes ctes') (hown : own.Matches S own') : (i i' : Item) →
    i.Counterpart s s' F ctes ctes' own own' i' →
    OutputsMatch S (i.outputs s ctes own) (i'.outputs s' ctes' own')
  | .unnamed e, _, .unnamed he hname => .cons ⟨hname, e.sources_match h hctes hown _ he⟩ .nil
  | .aliased e _, _, .aliased he => .cons ⟨rfl, e.sources_match h hctes hown _ he⟩ .nil
  | .wildcard _, _, .wildcard => hown.expandAll h.kept
  | .tableWildcard name _, _, .tableWildcard hplace => by
    have hfind := hown.find?_rel hplace
    rw [Item.outputs, Item.outputs]
    generalize own.find? name.path = r?, own'.find? name.path = r?' at hfind ⊢
    cases hfind with
    | some hr => exact hr.expand
    | none => exact .nil
  | .exprWildcard _ _, _, .exprWildcard => .nil
termination_by structural i => i

/-- The sources of corresponding expressions correspond. -/
theorem Expr.sources_match (h : Corresponds S s s' F) {ctes ctes' : CteScope} {own own' : Scope}
    (hctes : CteScope.Matches S ctes ctes') (hown : own.Matches S own') : (e e' : Expr) →
    e.Counterpart s s' F ctes ctes' own own' e' →
    S (e.sources s ctes own) (e'.sources s' ctes' own')
  | .column _, _, .column halike => hown.reference h.kept halike
  | .nested inner, .nested inner', .nested hinner => inner.sources_match h hctes hown inner' hinner
  | .cast _ inner _, .cast _ inner' _, .cast hinner =>
    inner.sources_match h hctes hown inner' hinner
  | .literal _, _, .literal => h.kept.nil
  | .call _ rest, _, .call hrest => pieceSources_match h hctes hown rest _ hrest
  | .access root steps, _, .access hroot hsteps =>
    h.kept.union (root.sources_match h hctes hown _ hroot)
      (pieceSources_match h hctes hown steps _ hsteps)
  | .phrase pieces, _, .phrase hpieces => pieceSources_match h hctes hown pieces _ hpieces
termination_by structural e => e

/-- The sources of corresponding pieces correspond. -/
theorem pieceSources_match (h : Corresponds S s s' F) {ctes ctes' : CteScope} {own own' : Scope}
    (hctes : CteScope.Matches S ctes ctes') (hown : own.Matches S own') : (ps ps' : List Piece) →
    PiecesCounterpart s s' F ctes ctes' own own' ps ps' →
    S (pieceSources s ctes own ps) (pieceSources s' ctes' own' ps')
  | [], _, .nil => h.kept.nil
  | p :: rest, _, .cons hp hrest => h.kept.union (p.sources_match h hctes hown _ hp)
    (pieceSources_match h hctes hown rest _ hrest)
termination_by structural ps => ps

/-- The sources of one piece correspond to those of its counterpart. -/
theorem Piece.sources_match (h : Corresponds S s s' F) {ctes ctes' : CteScope} {own own' : Scope}
    (hctes : CteScope.Matches S ctes ctes') (hown : own.Matches S own') : (p p' : Piece) →
    p.Counterpart s s' F ctes ctes' own own' p' →
    S (p.sources s ctes own) (p'.sources s' ctes' own')
  | .expr e, _, .expr he => e.sources_match h hctes hown _ he
  | .query q, _, .query hq => h.kept.unions (q.outputs_match h hctes _ hq).sources
  | .text _, _, .text => h.kept.nil
  | .table _, _, .table => h.kept.nil
  | .factor _, _, .factor => h.kept.nil
  | .source _, _, .source => h.kept.nil
termination_by structural p => p

/-- Corresponding tables bring matching relations into scope. -/
theorem sourceScope_match (h : Corresponds S s s' F) {ctes ctes' : CteScope} {own own' : Scope}
    (hctes : CteScope.Matches S ctes ctes') (hown : own.Matches S own') :
    (ts ts' : List TableWithJoins) → SourcesCounterpart s s' F ctes ctes' ts ts' →
    Scope.Matches S (sourceScope s ctes own ts) (sourceScope s' ctes' own' ts')
  | [], _, .nil => hown
  | t :: rest, _, .cons ht hrest =>
    sourceScope_match h hctes (t.addTo_match h hctes hown _ ht) rest _ hrest
termination_by structural ts => ts

/-- A table with its joins and its counterpart bring matching relations into scope. -/
theorem TableWithJoins.addTo_match (h : Corresponds S s s' F) {ctes ctes' : CteScope}
    {own own' : Scope} (hctes : CteScope.Matches S ctes ctes') (hown : own.Matches S own') :
    (t t' : TableWithJoins) → t.Counterpart s s' F ctes ctes' t' →
    Scope.Matches S (t.addTo s ctes own) (t'.addTo s' ctes' own')
  | ⟨relation, joins⟩, ⟨_, _⟩, .joined hrelation hjoins =>
    joinScope_match h hctes (relation.addTo_match h hctes hown _ hrelation) joins _ hjoins
termination_by structural t => t

/-- Corresponding joins bring matching relations into scope. -/
theorem joinScope_match (h : Corresponds S s s' F) {ctes ctes' : CteScope} {own own' : Scope}
    (hctes : CteScope.Matches S ctes ctes') (hown : own.Matches S own') : (js js' : List Join) →
    JoinsCounterpart s s' F ctes ctes' js js' →
    Scope.Matches S (joinScope s ctes own js) (joinScope s' ctes' own' js')
  | [], _, .nil => hown
  | ⟨_, kind, relation, _, constraint⟩ :: rest, ⟨_, _, _, _, _⟩ :: rest',
      .cons hrelation hmerged hrest => by
    have hjoined := (relation.addTo_match h hctes hown _ hrelation).merge
      (mergedColumns kind constraint)
    refine joinScope_match h hctes ?_ rest rest' hrest
    rw [Join.addTo, Join.addTo, ← hmerged]
    exact hjoined
termination_by structural js => js

/-- A table and its counterpart bring matching relations into scope, also where they are the ones
that differ. -/
theorem TableFactor.addTo_match (h : Corresponds S s s' F) {ctes ctes' : CteScope}
    {own own' : Scope} (hctes : CteScope.Matches S ctes ctes') (hown : own.Matches S own') :
    (f f' : TableFactor) → f.Counterpart s s' F ctes ctes' f' →
    Scope.Matches S (f.addTo s ctes own) (f'.addTo s' ctes' own')
  | .table name _ label _, _, .table => hown.push (h.namedRelation hctes name label)
  | .derived _ q label _, _, .derived hq => by
    have houtputs := q.outputs_match h hctes _ hq
    cases label with
    | some a => exact hown.push (.derived a.name.value (houtputs.renameOutputs a.columns))
    | none => exact hown.push (.derived "" houtputs)
  | .nested inner label, _, .nested hinner => by
    have hnested := inner.addTo_match h hctes .empty _ hinner
    cases label with
    | some a => exact hown.push (.derived a.name.value (hnested.expandAll h.kept))
    | none => exact hown.append hnested
  | .other _, _, .other => hown
  | f, f', .replaced hf => by
    obtain ⟨r, r', hr, hadd, hadd'⟩ := h.replaced hctes hf
    rw [hadd, hadd']
    exact hown.push hr
termination_by structural f => f

end

/-! ### Qualifiers that are answered alike -/

/-- The relations answer to the same qualifiers, and both are tables, or none is. -/
structure Relation.AnswersAlike (r r' : Relation) : Prop where
  isTable : r.table.isSome = r'.table.isSome
  answers : ∀ qualifier, r.answersTo qualifier = r'.answersTo qualifier

/-- The same names are bound. -/
def CteScope.BoundAlike (ctes ctes' : CteScope) : Prop :=
  ∀ name, (ctes.lookup name).isSome = (ctes'.lookup name).isSome

namespace Scope

/-- The relations answer alike one by one. -/
abbrev AnswersAlike (own own' : Scope) : Prop :=
  List.Forall₂ Relation.AnswersAlike own.relations own'.relations

variable {own own' : Scope}

/-- A qualifier is answered at the same place. -/
theorem AnswersAlike.place?_eq (h : own.AnswersAlike own') (qualifier : String) :
    own.place? qualifier = own'.place? qualifier := by
  have hrelations : List.Forall₂ Relation.AnswersAlike own.relations own'.relations := h
  rw [place?, place?]
  generalize own.relations = rs, own'.relations = rs' at hrelations ⊢
  induction hrelations with
  | nil => rfl
  | cons hr _ ih => rw [List.findIdx?_cons, List.findIdx?_cons, ih, hr.answers]

/-- Each reference is read from relations at the same place. -/
theorem AnswersAlike.readsAlike (h : own.AnswersAlike own') (path : List Ident) :
    own.readsAlike own' path = true := by
  have hrelation : ∀ {r r' : Relation}, r.AnswersAlike r' → ∀ column,
      r.readsAlike r' column = true := by
    intro r r' hr column
    rw [Relation.readsAlike, hr.isTable, beq_self_eq_true, Bool.true_or]
  rcases path with - | ⟨i, - | ⟨j, rest⟩⟩
  · rfl
  · have hrelations : List.Forall₂ Relation.AnswersAlike own.relations own'.relations := h
    rw [Scope.readsAlike]
    generalize own.relations = rs, own'.relations = rs' at hrelations ⊢
    cases hrelations with
    | nil => rfl
    | cons hr hrest =>
      cases hrest with
      | nil => exact hrelation hr i.value
      | cons _ _ => rfl
  · have hplace := h.place?_eq (qualifierOf (i :: j :: rest))
    have hfind := rel_find?_of_findIdx? h hplace
    refine Bool.and_eq_true_iff.mpr ⟨beq_iff_eq.mpr hplace, ?_⟩
    rw [find?, find?]
    generalize own.relations.find? (·.answersTo (qualifierOf (i :: j :: rest))) = r?,
      own'.relations.find? (·.answersTo (qualifierOf (i :: j :: rest))) = r?' at hfind ⊢
    cases hfind with
    | some hr => exact hrelation hr _
    | none => rfl

end Scope

/-- Named tables answer alike whatever common table expressions are in scope. -/
def Schema.AnswersAlike (s s' : Schema) : Prop :=
  ∀ ctes ctes' : CteScope, ctes.BoundAlike ctes' → ∀ name label,
    (namedRelation s ctes name label).AnswersAlike (namedRelation s' ctes' name label)

/-- One more name is bound in both scopes. -/
theorem CteScope.BoundAlike.bind {ctes ctes' : CteScope} (h : ctes.BoundAlike ctes')
    (name : String) (os os' : List Output) :
    CteScope.BoundAlike ((name, os) :: ctes) ((name, os') :: ctes') := by
  intro asked
  rw [List.lookup_cons, List.lookup_cons]
  split
  · rfl
  · exact h asked

/-- A clause binds the same names in both scopes. -/
theorem bindCtes_boundAlike (ds : List Cte) {ctes ctes' : CteScope} (h : ctes.BoundAlike ctes') :
    CteScope.BoundAlike (bindCtes s ctes ds) (bindCtes s' ctes' ds) := by
  induction ds generalizing ctes ctes' with
  | nil => exact h
  | cons d rest ih =>
    obtain ⟨label, _, _, _⟩ := d
    exact ih (h.bind (Text.lower label.name.value) _ _)

-- Which qualifiers a relation answers to does not depend on its columns, so that the scopes of the
-- relations are followed down the tree without the outputs of queries.

mutual

/-- Tables that are read twice answer to the same qualifiers both times. -/
theorem sourceScope_answersAlike (hs : s.AnswersAlike s') {ctes ctes' : CteScope}
    (hctes : ctes.BoundAlike ctes') {own own' : Scope} (hown : own.AnswersAlike own') :
    (ts : List TableWithJoins) →
    (sourceScope s ctes own ts).AnswersAlike (sourceScope s' ctes' own' ts)
  | [] => hown
  | t :: rest => sourceScope_answersAlike hs hctes (t.addTo_answersAlike hs hctes hown) rest
termination_by structural ts => ts

theorem TableWithJoins.addTo_answersAlike (hs : s.AnswersAlike s') {ctes ctes' : CteScope}
    (hctes : ctes.BoundAlike ctes') {own own' : Scope} (hown : own.AnswersAlike own') :
    (t : TableWithJoins) → (t.addTo s ctes own).AnswersAlike (t.addTo s' ctes' own')
  | ⟨relation, joins⟩ =>
    joinScope_answersAlike hs hctes (relation.addTo_answersAlike hs hctes hown) joins
termination_by structural t => t

theorem joinScope_answersAlike (hs : s.AnswersAlike s') {ctes ctes' : CteScope}
    (hctes : ctes.BoundAlike ctes') {own own' : Scope} (hown : own.AnswersAlike own') :
    (js : List Join) → (joinScope s ctes own js).AnswersAlike (joinScope s' ctes' own' js)
  | [] => hown
  | ⟨isGlobal, kind, relation, matching, constraint⟩ :: rest => by
    have hjoined : Scope.AnswersAlike
        (Join.addTo s ctes own ⟨isGlobal, kind, relation, matching, constraint⟩)
        (Join.addTo s' ctes' own' ⟨isGlobal, kind, relation, matching, constraint⟩) :=
      relation.addTo_answersAlike hs hctes hown
    exact joinScope_answersAlike hs hctes hjoined rest
termination_by structural js => js

/-- A table that is read twice answers to the same qualifiers both times. -/
theorem TableFactor.addTo_answersAlike (hs : s.AnswersAlike s') {ctes ctes' : CteScope}
    (hctes : ctes.BoundAlike ctes') {own own' : Scope} (hown : own.AnswersAlike own') :
    (f : TableFactor) → (f.addTo s ctes own).AnswersAlike (f.addTo s' ctes' own')
  | .table name _ label _ => List.rel_append hown (.cons (hs _ _ hctes name label) .nil)
  | .derived _ _ label _ => by
    cases label with
    | some _ => exact List.rel_append hown (.cons ⟨rfl, fun _ => rfl⟩ .nil)
    | none => exact List.rel_append hown (.cons ⟨rfl, fun _ => rfl⟩ .nil)
  | .nested inner label => by
    cases label with
    | some _ => exact List.rel_append hown (.cons ⟨rfl, fun _ => rfl⟩ .nil)
    | none => exact List.rel_append hown (inner.addTo_answersAlike hs hctes .nil)
  | .other _ => hown
termination_by structural f => f

end

mutual

/-- Where qualifiers are always answered alike, every query corresponds to itself. -/
theorem Query.counterpart_self (hs : s.AnswersAlike s') {ctes ctes' : CteScope}
    (hctes : ctes.BoundAlike ctes') : (q : Query) → q.Counterpart s s' F ctes ctes' q
  | ⟨_, definitions, body, _⟩ => .query (ctesCounterpart_self hs hctes definitions)
    (body.counterpart_self hs (bindCtes_boundAlike definitions hctes))
termination_by structural q => q

theorem ctesCounterpart_self (hs : s.AnswersAlike s') {ctes ctes' : CteScope}
    (hctes : ctes.BoundAlike ctes') : (ds : List Cte) → CtesCounterpart s s' F ctes ctes' ds ds
  | [] => .nil
  | ⟨label, _, query, _⟩ :: rest => .cons (query.counterpart_self hs hctes)
    (ctesCounterpart_self hs (hctes.bind (Text.lower label.name.value) _ _) rest)
termination_by structural ds => ds

/-- Where relations answer alike, each body corresponds to itself. -/
theorem Body.counterpart_self (hs : s.AnswersAlike s') {ctes ctes' : CteScope}
    (hctes : ctes.BoundAlike ctes') : (b : Body) → b.Counterpart s s' F ctes ctes' b
  | .select ⟨_, _, items, _, sources, _⟩ => .select (sourcesCounterpart_self hs hctes sources)
    (itemsCounterpart_self hs hctes (sourceScope_answersAlike hs hctes .nil sources) items)
  | .query q => .query (q.counterpart_self hs hctes)
  | .setOp left _ right =>
    .setOp (left.counterpart_self hs hctes) (right.counterpart_self hs hctes)
  | .other _ => .other
termination_by structural b => b

theorem itemsCounterpart_self (hs : s.AnswersAlike s') {ctes ctes' : CteScope}
    (hctes : ctes.BoundAlike ctes') {own own' : Scope} (hown : own.AnswersAlike own') :
    (is : List Item) → ItemsCounterpart s s' F ctes ctes' own own' is is
  | [] => .nil
  | i :: rest =>
    .cons (i.counterpart_self hs hctes hown) (itemsCounterpart_self hs hctes hown rest)
termination_by structural is => is

theorem Item.counterpart_self (hs : s.AnswersAlike s') {ctes ctes' : CteScope}
    (hctes : ctes.BoundAlike ctes') {own own' : Scope} (hown : own.AnswersAlike own') :
    (i : Item) → i.Counterpart s s' F ctes ctes' own own' i
  | .unnamed e => .unnamed (e.counterpart_self hs hctes hown) rfl
  | .aliased e _ => .aliased (e.counterpart_self hs hctes hown)
  | .wildcard _ => .wildcard
  | .tableWildcard name _ => .tableWildcard (hown.place?_eq name.path)
  | .exprWildcard _ _ => .exprWildcard
termination_by structural i => i

/-- Where relations answer alike, each expression corresponds to itself. -/
theorem Expr.counterpart_self (hs : s.AnswersAlike s') {ctes ctes' : CteScope}
    (hctes : ctes.BoundAlike ctes') {own own' : Scope} (hown : own.AnswersAlike own') :
    (e : Expr) → e.Counterpart s s' F ctes ctes' own own' e
  | .column path => .column (hown.readsAlike path)
  | .nested inner => .nested (inner.counterpart_self hs hctes hown)
  | .cast _ inner _ => .cast (inner.counterpart_self hs hctes hown)
  | .literal _ => .literal
  | .call _ rest => .call (piecesCounterpart_self hs hctes hown rest)
  | .access root steps => .access (root.counterpart_self hs hctes hown)
    (piecesCounterpart_self hs hctes hown steps)
  | .phrase pieces => .phrase (piecesCounterpart_self hs hctes hown pieces)
termination_by structural e => e

theorem piecesCounterpart_self (hs : s.AnswersAlike s') {ctes ctes' : CteScope}
    (hctes : ctes.BoundAlike ctes') {own own' : Scope} (hown : own.AnswersAlike own') :
    (ps : List Piece) → PiecesCounterpart s s' F ctes ctes' own own' ps ps
  | [] => .nil
  | p :: rest =>
    .cons (p.counterpart_self hs hctes hown) (piecesCounterpart_self hs hctes hown rest)
termination_by structural ps => ps

theorem Piece.counterpart_self (hs : s.AnswersAlike s') {ctes ctes' : CteScope}
    (hctes : ctes.BoundAlike ctes') {own own' : Scope} (hown : own.AnswersAlike own') :
    (p : Piece) → p.Counterpart s s' F ctes ctes' own own' p
  | .text _ => .text
  | .expr e => .expr (e.counterpart_self hs hctes hown)
  | .query q => .query (q.counterpart_self hs hctes)
  | .table _ => .table
  | .factor _ => .factor
  | .source _ => .source
termination_by structural p => p

theorem sourcesCounterpart_self (hs : s.AnswersAlike s') {ctes ctes' : CteScope}
    (hctes : ctes.BoundAlike ctes') : (ts : List TableWithJoins) →
    SourcesCounterpart s s' F ctes ctes' ts ts
  | [] => .nil
  | t :: rest => .cons (t.counterpart_self hs hctes) (sourcesCounterpart_self hs hctes rest)
termination_by structural ts => ts

theorem TableWithJoins.counterpart_self (hs : s.AnswersAlike s') {ctes ctes' : CteScope}
    (hctes : ctes.BoundAlike ctes') : (t : TableWithJoins) → t.Counterpart s s' F ctes ctes' t
  | ⟨relation, joins⟩ =>
    .joined (relation.counterpart_self hs hctes) (joinsCounterpart_self hs hctes joins)
termination_by structural t => t

theorem joinsCounterpart_self (hs : s.AnswersAlike s') {ctes ctes' : CteScope}
    (hctes : ctes.BoundAlike ctes') : (js : List Join) → JoinsCounterpart s s' F ctes ctes' js js
  | [] => .nil
  | ⟨_, _, relation, _, _⟩ :: rest =>
    .cons (relation.counterpart_self hs hctes) rfl (joinsCounterpart_self hs hctes rest)
termination_by structural js => js

/-- Where relations answer alike, each table corresponds to itself. -/
theorem TableFactor.counterpart_self (hs : s.AnswersAlike s') {ctes ctes' : CteScope}
    (hctes : ctes.BoundAlike ctes') : (f : TableFactor) → f.Counterpart s s' F ctes ctes' f
  | .table _ _ _ _ => .table
  | .derived _ q _ _ => .derived (q.counterpart_self hs hctes)
  | .nested inner _ => .nested (inner.counterpart_self hs hctes)
  | .other _ => .other
termination_by structural f => f

end

end AssetFlow.Sql
