import AssetFlow.Proofs.Sql.Origin
import AssetFlow.Sql.Render
import Mathlib.Data.List.Forall2

/-!
# Correlated references

The value of an expression is computed from the columns that it refers to, also from those that the
projections of nested queries refer to. Each place is a reading: a column reference with the selects
that it stands in, the innermost first, or an output of a wildcard. Lineage resolves a reference by
the relations of the innermost select alone (`Expr.mem_sources_iff`). So it counts if its qualifier
names one of them; a correlated reference, which names a relation of a select further out, adds
nothing (`rate_not_read`).

## Main definitions

- `Reading`, `Reading.sources`: a place that a value is computed from, and what it goes back to
- `Reading.outer?`: the relation that a correlated reference names
- `Expr.readings`, `Query.readings`: the places that an expression and each output of a query are
  computed from

## Main statements

- `Query.outputs_computed`: each output goes back to what its readings go back to
- `projection_reads`: which references in a projected expression count
-/

namespace AssetFlow.Sql

/-- What precedes the last identifier of a column reference. -/
def qualifierOf (path : List Ident) : String :=
  ".".intercalate (path.dropLast.map Ident.value)

/-- The last identifier of a column reference. -/
def columnOf (path : List Ident) : String :=
  (path.getLast?.map Ident.value).getD ""

/-- A place that a value is computed from. -/
inductive Reading
  /-- A column reference, the relations of the select that it stands in, and those of the selects
  around this one, the innermost first. -/
  | reference (path : List Ident) (own : Scope) (around : List Scope)
  /-- An output of a wildcard. -/
  | output (o : Output)

namespace Reading

/-- What the place goes back to: references are resolved by the relations of their own select. -/
def sources : Reading → Sources
  | .reference path own _ => (Expr.column path).sources {} [] own
  | .output o => o.sources

/-- The relation that a correlated reference names: its qualifier names no relation of its own
select, but one of a select around it. -/
def outer? : Reading → Option Relation
  | .reference path own around =>
    if path.length < 2 ∨ (own.find? (qualifierOf path)).isSome then none
    else around.findSome? (·.find? (qualifierOf path))
  | .output _ => none

/-- The column that is asked for. -/
def column : Reading → String
  | .reference path _ _ => columnOf path
  | .output o => o.name

end Reading

/-- The places of the right side are added to those at the same place on the left. -/
def readingsByPlace : List (List Reading) → List (List Reading) → List (List Reading)
  | l :: left, r :: right => (l ++ r) :: readingsByPlace left right
  | left, _ => left

mutual

/-- The places that the value of an expression is computed from, where `own` is the scope of the
select that it stands in and `around` those of the selects around. -/
def Expr.readings (schema : Schema) (ctes : CteScope) (own : Scope) (around : List Scope) :
    Expr → List Reading
  | .column path => [.reference path own around]
  | .nested inner => inner.readings schema ctes own around
  | .cast _ inner _ => inner.readings schema ctes own around
  | .literal _ => []
  | .call _ rest => pieceReadings schema ctes own around rest
  | .access root steps =>
    root.readings schema ctes own around ++ pieceReadings schema ctes own around steps
  | .phrase pieces => pieceReadings schema ctes own around pieces
termination_by structural e => e

def pieceReadings (schema : Schema) (ctes : CteScope) (own : Scope) (around : List Scope) :
    List Piece → List Reading
  | [] => []
  | p :: rest =>
    p.readings schema ctes own around ++ pieceReadings schema ctes own around rest
termination_by structural ps => ps

/-- All projections of a nested query count. -/
def Piece.readings (schema : Schema) (ctes : CteScope) (own : Scope) (around : List Scope) :
    Piece → List Reading
  | .expr e => e.readings schema ctes own around
  | .query q => (q.readings schema ctes (own :: around)).flatten
  | .text _ | .table _ | .factor _ | .source _ => []
termination_by structural p => p

/-- The places that each output of a query is computed from. -/
def Query.readings (schema : Schema) (ctes : CteScope) (around : List Scope) :
    Query → List (List Reading)
  | ⟨_, definitions, body, _⟩ => body.readings schema (bindCtes schema ctes definitions) around
termination_by structural q => q

def Body.readings (schema : Schema) (ctes : CteScope) (around : List Scope) :
    Body → List (List Reading)
  | .select s => s.readings schema ctes around
  | .query q => q.readings schema ctes around
  | .setOp left _ right =>
    readingsByPlace (left.readings schema ctes around) (right.readings schema ctes around)
  | .other _ => []
termination_by structural b => b

def Select.readings (schema : Schema) (ctes : CteScope) (around : List Scope) :
    Select → List (List Reading)
  | ⟨_, _, items, _, sources, _⟩ =>
    itemReadings schema ctes (sourceScope schema ctes {} sources) around items
termination_by structural s => s

def itemReadings (schema : Schema) (ctes : CteScope) (own : Scope) (around : List Scope) :
    List Item → List (List Reading)
  | [] => []
  | i :: rest => i.readings schema ctes own around ++ itemReadings schema ctes own around rest
termination_by structural is => is

def Item.readings (schema : Schema) (ctes : CteScope) (own : Scope) (around : List Scope) :
    Item → List (List Reading)
  | .unnamed e => [e.readings schema ctes own around]
  | .aliased e _ => [e.readings schema ctes own around]
  | .wildcard _ => own.expandAll.map fun o => [.output o]
  | .tableWildcard name _ => match own.find? name.path with
    | some r => r.expand.map fun o => [.output o]
    | none => []
  | .exprWildcard _ _ => []
termination_by structural i => i

end

/-! ### Outputs and readings -/

variable {schema : Schema} {ctes : CteScope} {own : Scope} {around : List Scope}

/-- The output goes back to what the places go back to. -/
def Output.ComputedFrom (o : Output) (rs : List Reading) : Prop :=
  ∀ c, c ∈ o.sources ↔ ∃ r ∈ rs, c ∈ r.sources

theorem computedFrom_outputs (os : List Output) :
    List.Forall₂ Output.ComputedFrom os (os.map fun o => [.output o]) := by
  refine List.forall₂_map_right_iff.mpr (List.forall₂_same.mpr fun o _ c => ?_)
  simp [Reading.sources]

/-- Set operations compute each output from the readings at its place. -/
theorem computedFrom_byPlace {left right : List Output} {ls rs : List (List Reading)}
    (hl : List.Forall₂ Output.ComputedFrom left ls)
    (hr : List.Forall₂ Output.ComputedFrom right rs) :
    List.Forall₂ Output.ComputedFrom (mergeByPlace left right) (readingsByPlace ls rs) := by
  induction hl generalizing right rs with
  | nil => exact .nil
  | cons hhead htail ih =>
    cases hr with
    | nil => exact .cons hhead htail
    | cons hhead' htail' =>
      refine .cons (fun c => ?_) (ih htail')
      simp only [Sources.mem_union, hhead c, hhead' c, List.mem_append, or_and_right, exists_or]

/-- The sources of all outputs are those of their readings. -/
theorem mem_unions_outputs {os : List Output} {rss : List (List Reading)} {c : ColumnRef}
    (h : List.Forall₂ Output.ComputedFrom os rss) :
    c ∈ Sources.unions (os.map Output.sources) ↔ ∃ r ∈ rss.flatten, c ∈ r.sources := by
  induction h with
  | nil => simp [Sources.unions]
  | cons hhead htail ih =>
    rw [Sources.mem_unions] at ih ⊢
    rw [List.map_cons, List.exists_mem_cons_iff, ih, hhead c, List.flatten_cons]
    simp only [List.mem_append, or_and_right, exists_or]

-- The induction is on the syntax; nested queries are resolved without the scopes around them, which
-- the readings only record.

mutual

/-- The sources of an expression are those of its readings. -/
theorem Expr.mem_sources_iff {ctes : CteScope} {own : Scope} (around : List Scope)
    {c : ColumnRef} : (e : Expr) → (c ∈ e.sources schema ctes own ↔
      ∃ r ∈ e.readings schema ctes own around, c ∈ r.sources)
  | .column [] | .column [_] | .column (_ :: _ :: _) => by
    simp only [Expr.readings, List.mem_singleton, exists_eq_left]
    rfl
  | .nested inner => inner.mem_sources_iff around
  | .cast _ inner _ => inner.mem_sources_iff around
  | .literal _ => by simp [Expr.sources, Expr.readings]
  | .call _ rest => mem_pieceSources_iff around rest
  | .access root steps => by
    rw [Expr.sources, Expr.readings, Sources.mem_union, root.mem_sources_iff around,
      mem_pieceSources_iff around steps]
    simp only [List.mem_append, or_and_right, exists_or]
  | .phrase pieces => mem_pieceSources_iff around pieces
termination_by structural e => e

/-- The sources in a row of pieces are those of its readings, by recursion on the text; the lemmas
that follow say so of every other part of a query. -/
theorem mem_pieceSources_iff {ctes : CteScope} {own : Scope} (around : List Scope)
    {c : ColumnRef} : (ps : List Piece) → (c ∈ pieceSources schema ctes own ps ↔
      ∃ r ∈ pieceReadings schema ctes own around ps, c ∈ r.sources)
  | [] => by simp [pieceSources, pieceReadings]
  | p :: rest => by
    rw [pieceSources, pieceReadings, Sources.mem_union, p.mem_sources_iff around,
      mem_pieceSources_iff around rest]
    simp only [List.mem_append, or_and_right, exists_or]
termination_by structural ps => ps

theorem Piece.mem_sources_iff {ctes : CteScope} {own : Scope} (around : List Scope)
    {c : ColumnRef} : (p : Piece) → (c ∈ p.sources schema ctes own ↔
      ∃ r ∈ p.readings schema ctes own around, c ∈ r.sources)
  | .expr e => e.mem_sources_iff around
  | .query q => mem_unions_outputs (q.outputs_computed (own :: around))
  | .text _ | .table _ | .factor _ | .source _ => by simp [Piece.sources, Piece.readings]
termination_by structural p => p

/-- Each output of a query goes back to what its readings go back to. -/
theorem Query.outputs_computed {ctes : CteScope} (around : List Scope) : (q : Query) →
    List.Forall₂ Output.ComputedFrom (q.outputs schema ctes) (q.readings schema ctes around)
  | ⟨_, _, body, _⟩ => body.outputs_computed around
termination_by structural q => q

theorem Body.outputs_computed {ctes : CteScope} (around : List Scope) : (b : Body) →
    List.Forall₂ Output.ComputedFrom (b.outputs schema ctes) (b.readings schema ctes around)
  | .select s => s.outputs_computed around
  | .query q => q.outputs_computed around
  | .setOp left _ right => computedFrom_byPlace (left.outputs_computed around)
    (right.outputs_computed around)
  | .other _ => .nil
termination_by structural b => b

theorem Select.outputs_computed {ctes : CteScope} (around : List Scope) : (s : Select) →
    List.Forall₂ Output.ComputedFrom (s.outputs schema ctes) (s.readings schema ctes around)
  | ⟨_, _, items, _, _, _⟩ => itemOutputs_computed around items
termination_by structural s => s

theorem itemOutputs_computed {ctes : CteScope} {own : Scope} (around : List Scope) :
    (is : List Item) → List.Forall₂ Output.ComputedFrom (itemOutputs schema ctes own is)
      (itemReadings schema ctes own around is)
  | [] => .nil
  | i :: rest => List.rel_append (i.outputs_computed around) (itemOutputs_computed around rest)
termination_by structural is => is

theorem Item.outputs_computed {ctes : CteScope} {own : Scope} (around : List Scope) :
    (i : Item) → List.Forall₂ Output.ComputedFrom (i.outputs schema ctes own)
      (i.readings schema ctes own around)
  | .unnamed e => .cons (fun _ => e.mem_sources_iff around) .nil
  | .aliased e _ => .cons (fun _ => e.mem_sources_iff around) .nil
  | .wildcard _ => computedFrom_outputs _
  | .tableWildcard name _ => by
    rw [Item.outputs, Item.readings]
    cases own.find? name.path with
    | some r => exact computedFrom_outputs r.expand
    | none => exact .nil
  | .exprWildcard _ _ => .nil
termination_by structural i => i

end

/-! ### Which references count -/

namespace Reading

variable {path : List Ident} {relation : Relation} {r : Reading}

/-- A reference with a qualifier is resolved by the relation of its own select of this name. -/
theorem sources_reference (hpath : 2 ≤ path.length) :
    (reference path own around).sources = own.qualified (qualifierOf path) (columnOf path) := by
  match path, hpath with
  | _ :: _ :: _, _ => rfl

/-- Only a qualified name that no relation of the query bears is read around it. -/
theorem outer?_eq_some (h : (reference path own around).outer? = some relation) :
    2 ≤ path.length ∧ own.find? (qualifierOf path) = none := by
  rw [outer?] at h
  split at h
  · cases h
  · next hnot =>
    obtain ⟨hlength, hown⟩ := not_or.mp hnot
    exact ⟨Nat.le_of_not_lt hlength, Option.not_isSome_iff_eq_none.mp hown⟩

/-- A correlated reference goes back to nothing. -/
theorem sources_of_outer? (h : r.outer? = some relation) : r.sources = [] := by
  cases r with
  | output o => cases h
  | reference path own around =>
    obtain ⟨hpath, hown⟩ := outer?_eq_some h
    rw [sources_reference hpath, Scope.qualified, hown]

end Reading

/-- The expression of an item that has one output. -/
def Item.expr? : Item → Option Expr
  | .unnamed e => some e
  | .aliased e _ => some e
  | .wildcard _ | .tableWildcard _ _ | .exprWildcard _ _ => none

/-- The scope of a select: the relations that it reads. -/
def Select.scope (schema : Schema) (ctes : CteScope) (s : Select) : Scope :=
  sourceScope schema ctes {} s.sources

theorem mem_itemOutputs {is : List Item} {i : Item} {o : Output} (hi : i ∈ is)
    (ho : o ∈ i.outputs schema ctes own) : o ∈ itemOutputs schema ctes own is := by
  induction is with
  | nil => cases hi
  | cons j rest ih =>
    rw [itemOutputs, List.mem_append]
    rcases List.mem_cons.mp hi with rfl | hi
    · exact .inl ho
    · exact .inr (ih hi)

theorem Select.outputs_eq (s : Select) :
    s.outputs schema ctes = itemOutputs schema ctes (s.scope schema ctes) s.items := by
  cases s
  rfl

/-- **Which references count**: the output of a projected expression goes back to what its readings
go back to. A qualified reference that names a relation of its own select counts, at any depth. A
correlated one adds nothing: what it asks for through the relation that it names is among the
sources of the output just if references that are not correlated, or wildcards, ask for it too. -/
theorem projection_reads {s : Select} {i : Item} {e : Expr} (hi : i ∈ s.items)
    (he : i.expr? = some e) : ∃ o ∈ s.outputs schema ctes,
      i.outputs schema ctes (s.scope schema ctes) = [o] ∧
      (∀ c, c ∈ o.sources ↔
        ∃ r ∈ e.readings schema ctes (s.scope schema ctes) [], c ∈ r.sources) ∧
      (∀ path own around,
        .reference path own around ∈ e.readings schema ctes (s.scope schema ctes) [] →
        2 ≤ path.length → ∀ relation, own.find? (qualifierOf path) = some relation →
          ∀ c ∈ relation.lookup (columnOf path), c ∈ o.sources) ∧
      (∀ r ∈ e.readings schema ctes (s.scope schema ctes) [],
        ∀ relation, r.outer? = some relation →
          ((∀ c ∈ relation.lookup r.column, c ∈ o.sources) ↔
            ∀ c ∈ relation.lookup r.column, ∃ r' ∈ e.readings schema ctes (s.scope schema ctes) [],
              r'.outer? = none ∧ c ∈ r'.sources)) := by
  obtain ⟨o, ho, hsources⟩ : ∃ o, i.outputs schema ctes (s.scope schema ctes) = [o] ∧
      o.sources = e.sources schema ctes (s.scope schema ctes) := by
    cases i with
    | unnamed e' | aliased e' label =>
      obtain rfl := Option.some.inj he
      exact ⟨_, rfl, rfl⟩
    | wildcard | tableWildcard | exprWildcard => cases he
  have hreads : o.ComputedFrom (e.readings schema ctes (s.scope schema ctes) []) := by
    intro c
    rw [hsources, e.mem_sources_iff []]
  have hmem : o ∈ s.outputs schema ctes := by
    rw [s.outputs_eq]
    exact mem_itemOutputs hi (ho ▸ List.mem_singleton_self o)
  refine ⟨o, hmem, ho, hreads, ?_, ?_⟩
  · intro path own around hr hpath relation hown c hc
    refine (hreads c).mpr ⟨_, hr, ?_⟩
    rwa [Reading.sources_reference hpath, Scope.qualified, hown]
  · intro r hr relation hrelation
    refine forall₂_congr fun c hc => (hreads c).trans ⟨?_, ?_⟩
    · rintro ⟨r', hr', hc'⟩
      refine ⟨r', hr', ?_, hc'⟩
      by_contra hcorrelated
      obtain ⟨relation', hrelation'⟩ := Option.ne_none_iff_exists'.mp hcorrelated
      rw [Reading.sources_of_outer? hrelation'] at hc'
      cases hc'
    · rintro ⟨r', hr', -, hc'⟩
      exact ⟨r', hr', hc'⟩

/-- A reference to a column of a relation by its alias. -/
def aliasedColumn (label column : String) : Expr :=
  .column [⟨label, none⟩, ⟨column, none⟩]

/-- A select of one item from a table under an alias. -/
def selectOne (item : Item) (table label : String) : Select :=
  ⟨false, [], [item], [],
    [⟨.table ⟨[⟨table, none⟩]⟩ [] (some ⟨true, ⟨label, none⟩, []⟩) [], []⟩], []⟩

/-- The prices of items at the rate of an order. -/
def ratedPrice : Expr :=
  .phrase [.text "(", .query ⟨false, [], .select (selectOne
    (.unnamed (.phrase [.expr (aliasedColumn "i" "price"), .text " * ",
      .expr (aliasedColumn "o" "rate")])) "items" "i"), []⟩, .text ")"]

def ratedOrders : Select :=
  selectOne (.aliased ratedPrice ⟨"total", none⟩) "orders" "o"

/-- The reference to a relation of the nested query counts. -/
theorem price_read : ∃ o ∈ ratedOrders.outputs {} [], ⟨"items", "price"⟩ ∈ o.sources := by
  have hitem : Item.aliased ratedPrice ⟨"total", none⟩ ∈ ratedOrders.items :=
    List.mem_singleton_self _
  obtain ⟨o, ho, -, -, hcounts, -⟩ := @projection_reads {} [] ratedOrders _ ratedPrice hitem rfl
  exact ⟨o, ho, hcounts _ _ _ (List.mem_cons_self ..) (by decide) ⟨"i", some "items", none⟩
    (by decide +kernel) ⟨"items", "price"⟩ (by decide +kernel)⟩

/-- The correlated reference is a reading of the output and asks for a column of `orders`, which is
not a source of the output. -/
theorem rate_not_read : (Body.select ratedOrders).render =
      "SELECT (SELECT i.price * o.rate FROM items AS i) AS total FROM orders AS o" ∧
    (∃ r ∈ ratedPrice.readings {} [] (ratedOrders.scope {} []) [], ∃ relation,
      r.outer? = some relation ∧ relation.lookup r.column = [⟨"orders", "rate"⟩]) ∧
    ratedOrders.outputs {} [] = [⟨"total", [⟨"items", "price"⟩]⟩] := by
  refine ⟨by decide +kernel, ⟨.reference [⟨"o", none⟩, ⟨"rate", none⟩]
    ⟨[⟨"i", some "items", none⟩], []⟩ [⟨[⟨"o", some "orders", none⟩], []⟩],
    List.mem_cons_of_mem _ (List.mem_cons_self ..), ⟨"o", some "orders", none⟩, ?_, ?_⟩, ?_⟩
  · decide +kernel
  · decide +kernel
  · decide +kernel

end AssetFlow.Sql
