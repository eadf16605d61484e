import AssetFlow.Proofs.Sql.Dependence

/-!
# Inlining of common table expressions

A query with a common table expression has the lineage of the query in which every reference to it
is replaced by its definition as a derived table. At a reference, lineage takes outputs that it
computed ahead of the query; at the derived table it computes them again, with what is bound there.
Both are the same if no clause in between binds a name that is free in the definition, and then the
relations do not differ.

A clause inside the query may bind the name anew. What follows this definition is not touched; the
definition itself, like those before it, is still in scope of the common table expression as lineage
reads it, whether the clause is recursive or not.

## Main definitions

- `Body.inline`, `Query.inline` and their companions: references replaced by derived tables
- `Cte.CaptureFree`: no clause around a reference binds a name that is free in the definition
- `Body.labelled`: every projection item with a nested query has an alias
- `CteScope.Extends`: a scope with the common table expression, and one without it

## Main statements

- `Query.outputs_inline`: what inlining does not change in the body of a query
- `outputs_inline_cte`: a common table expression may be inlined
-/

namespace AssetFlow.Sql

/-- The name as a single identifier. -/
def ObjectName.toIdent (n : ObjectName) : Ident :=
  match n.parts with
  | [i] => i
  | _ => ⟨n.path, some '"'⟩

theorem ObjectName.value_toIdent (n : ObjectName) : n.toIdent.value = n.path := by
  obtain ⟨_ | ⟨i, _ | ⟨j, parts⟩⟩⟩ := n
  case cons.nil => exact String.intercalate_singleton.symm
  all_goals rfl

namespace Cte

/-- The name refers to the common table expression where no later clause binds it. -/
def isNamed (c : Cte) (name : ObjectName) : Bool :=
  Text.lower name.path == c.boundName

/-- Whether a clause binds the name of the common table expression anew. -/
def isRebound (c : Cte) (ctes : List Cte) : Bool :=
  ctes.any fun d => d.boundName == c.boundName

/-- The definition in place of a reference; it takes the alias of the reference, or its name. -/
def derived (c : Cte) (name : ObjectName) (label : Option TableAlias) (sample : List Piece) :
    TableFactor :=
  .derived false c.query
    (some ⟨true, (label.map TableAlias.name).getD name.toIdent, c.label.columns⟩) sample

end Cte

mutual

def Expr.inline (c : Cte) : Expr → Expr
  | .column path => .column path
  | .nested inner => .nested (inner.inline c)
  | .cast before inner after => .cast before (inner.inline c) after
  | .literal spelling => .literal spelling
  | .call name rest => .call name (inlinePieces c rest)
  | .access root steps => .access (root.inline c) (inlinePieces c steps)
  | .phrase pieces => .phrase (inlinePieces c pieces)
termination_by structural e => e

def inlinePieces (c : Cte) : List Piece → List Piece
  | [] => []
  | p :: rest => p.inline c :: inlinePieces c rest
termination_by structural ps => ps

def Piece.inline (c : Cte) : Piece → Piece
  | .text s => .text s
  | .expr e => .expr (e.inline c)
  | .query q => .query (q.inline c)
  | .table name => .table name
  | .factor f => .factor (f.inline c)
  | .source t => .source (t.inline c)
termination_by structural p => p

/-- The query with the definition of `c` in place of the references to it, up to where the name is
bound anew. -/
def Query.inline (c : Cte) : Query → Query
  | ⟨isRecursive, ctes, body, rest⟩ =>
    if c.isRebound ctes then ⟨isRecursive, inlineCtes c ctes, body, rest⟩
    else ⟨isRecursive, inlineCtes c ctes, body.inline c, inlinePieces c rest⟩
termination_by structural q => q

/-- The definitions of a clause, up to the one that binds the name anew. -/
def inlineCtes (c : Cte) : List Cte → List Cte
  | [] => []
  | d :: rest => c.inline d :: (if d.boundName = c.boundName then rest else inlineCtes c rest)
termination_by structural ds => ds

/-- The definition `d` with `c` inlined. -/
def Cte.inline (c : Cte) : Cte → Cte
  | ⟨label, hint, query, source⟩ => ⟨label, hint, query.inline c, source⟩
termination_by structural d => d

def Body.inline (c : Cte) : Body → Body
  | .select s => .select (s.inline c)
  | .query q => .query (q.inline c)
  | .setOp left op right => .setOp (left.inline c) op (right.inline c)
  | .other pieces => .other (inlinePieces c pieces)
termination_by structural b => b

def Select.inline (c : Cte) : Select → Select
  | ⟨fromFirst, head, items, into, sources, rest⟩ =>
    ⟨fromFirst, inlinePieces c head, inlineItems c items, inlinePieces c into,
      inlineSources c sources, inlinePieces c rest⟩
termination_by structural s => s

def inlineItems (c : Cte) : List Item → List Item
  | [] => []
  | i :: rest => i.inline c :: inlineItems c rest
termination_by structural is => is

def Item.inline (c : Cte) : Item → Item
  | .unnamed e => .unnamed (e.inline c)
  | .aliased e label => .aliased (e.inline c) label
  | .wildcard options => .wildcard (inlinePieces c options)
  | .tableWildcard name options => .tableWildcard name (inlinePieces c options)
  | .exprWildcard e options => .exprWildcard (e.inline c) (inlinePieces c options)
termination_by structural i => i

def inlineSources (c : Cte) : List TableWithJoins → List TableWithJoins
  | [] => []
  | t :: rest => t.inline c :: inlineSources c rest
termination_by structural ts => ts

def TableWithJoins.inline (c : Cte) : TableWithJoins → TableWithJoins
  | ⟨relation, joins⟩ => ⟨relation.inline c, inlineJoins c joins⟩
termination_by structural t => t

/-- A reference to `c` is replaced, with arguments if it has any: lineage takes no notice of them,
nor of the names that the alias of a reference gives to columns. -/
def TableFactor.inline (c : Cte) : TableFactor → TableFactor
  | .table name arguments label hints =>
    if c.isNamed name then c.derived name label (inlinePieces c hints)
    else .table name (inlinePieces c arguments) label (inlinePieces c hints)
  | .derived lateral query label sample =>
    .derived lateral (query.inline c) label (inlinePieces c sample)
  | .nested inner label => .nested (inner.inline c) label
  | .other pieces => .other (inlinePieces c pieces)
termination_by structural f => f

def inlineJoins (c : Cte) : List Join → List Join
  | [] => []
  | j :: rest => j.inline c :: inlineJoins c rest
termination_by structural js => js

def Join.inline (c : Cte) : Join → Join
  | ⟨isGlobal, kind, relation, matching, constraint⟩ =>
    ⟨isGlobal, kind, relation.inline c, inlinePieces c matching, constraint.inline c⟩
termination_by structural j => j

def JoinConstraint.inline (c : Cte) : JoinConstraint → JoinConstraint
  | .none => .none
  | .natural => .natural
  | .on e => .on (e.inline c)
  | .using columns => .using columns
termination_by structural k => k

end

/-! ### Conditions -/

/-- No clause between the definition and a reference to it binds a name that is free in it. -/
def Cte.CaptureFree (c : Cte) (refs : List Reference) : Prop :=
  ∀ r ∈ refs, r.key = c.boundName → c.boundName ∉ r.binders.visible →
    FreeNames (· ∉ r.binders.visible) (c.query.references {})

instance (N : String → Prop) [DecidablePred N] (refs : List Reference) :
    Decidable (FreeNames N refs) :=
  inferInstanceAs (Decidable (∀ r ∈ refs, r.key ∉ r.binders.visible → N r.key))

instance (c : Cte) (refs : List Reference) : Decidable (c.CaptureFree refs) :=
  inferInstanceAs (Decidable (∀ r ∈ refs, r.key = c.boundName → c.boundName ∉ r.binders.visible →
    FreeNames (· ∉ r.binders.visible) (c.query.references {})))

mutual

/-- Whether no query stands in an expression, and no relation, which would be in a query. -/
def Expr.isPlain : Expr → Bool
  | .column _ | .literal _ => true
  | .nested inner => inner.isPlain
  | .cast _ inner _ => inner.isPlain
  | .call _ rest => plainPieces rest
  | .access root steps => root.isPlain && plainPieces steps
  | .phrase pieces => plainPieces pieces
termination_by structural e => e

def plainPieces : List Piece → Bool
  | [] => true
  | p :: rest => p.isPlain && plainPieces rest
termination_by structural ps => ps

def Piece.isPlain : Piece → Bool
  | .text _ | .table _ => true
  | .expr e => e.isPlain
  | .query _ | .factor _ | .source _ => false
termination_by structural p => p

end

mutual

def Expr.labelled : Expr → Bool
  | .column _ | .literal _ => true
  | .nested inner => inner.labelled
  | .cast _ inner _ => inner.labelled
  | .call _ rest => labelledPieces rest
  | .access root steps => root.labelled && labelledPieces steps
  | .phrase pieces => labelledPieces pieces
termination_by structural e => e

def labelledPieces : List Piece → Bool
  | [] => true
  | p :: rest => p.labelled && labelledPieces rest
termination_by structural ps => ps

def Piece.labelled : Piece → Bool
  | .expr e => e.labelled
  | .query q => q.labelled
  | .text _ | .table _ | .factor _ | .source _ => true
termination_by structural p => p

/-- Whether every projection item with a nested query has an alias, in all that lineage follows. -/
def Query.labelled : Query → Bool
  | ⟨_, ctes, body, _⟩ => labelledCtes ctes && body.labelled
termination_by structural q => q

def labelledCtes : List Cte → Bool
  | [] => true
  | c :: rest => c.labelled && labelledCtes rest
termination_by structural cs => cs

def Cte.labelled : Cte → Bool
  | ⟨_, _, query, _⟩ => query.labelled
termination_by structural c => c

def Body.labelled : Body → Bool
  | .select s => s.labelled
  | .query q => q.labelled
  | .setOp left _ right => left.labelled && right.labelled
  | .other _ => true
termination_by structural b => b

def Select.labelled : Select → Bool
  | ⟨_, _, items, _, sources, _⟩ => labelledItems items && labelledSources sources
termination_by structural s => s

def labelledItems : List Item → Bool
  | [] => true
  | i :: rest => i.labelled && labelledItems rest
termination_by structural is => is

/-- An item without an alias is named by its spelling, so no query may stand in it. -/
def Item.labelled : Item → Bool
  | .unnamed e => e.isPlain
  | .aliased e _ => e.labelled
  | .wildcard _ | .tableWildcard _ _ | .exprWildcard _ _ => true
termination_by structural i => i

def labelledSources : List TableWithJoins → Bool
  | [] => true
  | t :: rest => t.labelled && labelledSources rest
termination_by structural ts => ts

def TableWithJoins.labelled : TableWithJoins → Bool
  | ⟨relation, joins⟩ => relation.labelled && labelledJoins joins
termination_by structural t => t

def TableFactor.labelled : TableFactor → Bool
  | .derived _ query _ _ => query.labelled
  | .nested inner _ => inner.labelled
  | .table _ _ _ _ | .other _ => true
termination_by structural f => f

def labelledJoins : List Join → Bool
  | [] => true
  | j :: rest => j.labelled && labelledJoins rest
termination_by structural js => js

def Join.labelled : Join → Bool
  | ⟨_, _, relation, _, _⟩ => relation.labelled
termination_by structural j => j

end

mutual

/-- There is nothing to inline in an expression without a query. -/
theorem Expr.inline_of_isPlain (c : Cte) : (e : Expr) → e.isPlain → e.inline c = e
  | .column _, _ | .literal _, _ => rfl
  | .nested inner, h => congrArg Expr.nested (inner.inline_of_isPlain c h)
  | .cast _ inner _, h => congrArg (Expr.cast _ · _) (inner.inline_of_isPlain c h)
  | .call _ rest, h => congrArg (Expr.call _) (inlinePieces_of_plain c rest h)
  | .access root steps, h =>
    congrArg₂ Expr.access (root.inline_of_isPlain c (Bool.and_eq_true_iff.mp h).1)
      (inlinePieces_of_plain c steps (Bool.and_eq_true_iff.mp h).2)
  | .phrase pieces, h => congrArg Expr.phrase (inlinePieces_of_plain c pieces h)
termination_by structural e => e

theorem inlinePieces_of_plain (c : Cte) :
    (ps : List Piece) → plainPieces ps → inlinePieces c ps = ps
  | [], _ => rfl
  | p :: rest, h =>
    congrArg₂ List.cons (p.inline_of_isPlain c (Bool.and_eq_true_iff.mp h).1)
      (inlinePieces_of_plain c rest (Bool.and_eq_true_iff.mp h).2)
termination_by structural ps => ps

theorem Piece.inline_of_isPlain (c : Cte) : (p : Piece) → p.isPlain → p.inline c = p
  | .text _, _ | .table _, _ => rfl
  | .expr e, h => congrArg Piece.expr (e.inline_of_isPlain c h)
termination_by structural p => p

end

mutual

theorem Expr.labelled_of_isPlain : (e : Expr) → e.isPlain → e.labelled
  | .column _, _ | .literal _, _ => rfl
  | .nested inner, h => inner.labelled_of_isPlain h
  | .cast _ inner _, h => inner.labelled_of_isPlain h
  | .call _ rest, h => labelledPieces_of_plain rest h
  | .access root steps, h => Bool.and_eq_true_iff.mpr
    ⟨root.labelled_of_isPlain (Bool.and_eq_true_iff.mp h).1,
      labelledPieces_of_plain steps (Bool.and_eq_true_iff.mp h).2⟩
  | .phrase pieces, h => labelledPieces_of_plain pieces h
termination_by structural e => e

theorem labelledPieces_of_plain : (ps : List Piece) → plainPieces ps → labelledPieces ps
  | [], _ => rfl
  | p :: rest, h => Bool.and_eq_true_iff.mpr
    ⟨p.labelled_of_isPlain (Bool.and_eq_true_iff.mp h).1,
      labelledPieces_of_plain rest (Bool.and_eq_true_iff.mp h).2⟩
termination_by structural ps => ps

theorem Piece.labelled_of_isPlain : (p : Piece) → p.isPlain → p.labelled
  | .text _, _ | .table _, _ => rfl
  | .expr e, h => e.labelled_of_isPlain h
termination_by structural p => p

end

/-! ### Scopes with and without the common table expression -/

variable {schema : Schema} {base ctes ctes' : CteScope} {b : Binders} {c d : Cte}

/-- Nothing is captured in two lists together exactly if nothing is in either. -/
theorem Cte.captureFree_append {refs refs' : List Reference} :
    c.CaptureFree (refs ++ refs') ↔ c.CaptureFree refs ∧ c.CaptureFree refs' :=
  List.forall_mem_append

/-- The first scope holds a common table expression that is defined in `base`; the second one is
without it. Since its definition, other names have been bound in both. -/
structure CteScope.Extends (schema : Schema) (base : CteScope) (c : Cte) (b : Binders)
    (ctes ctes' : CteScope) : Prop where
  current : c.boundName ∉ b.visible
  held : ctes.lookup c.boundName = some (c.binding schema base).2
  others : ∀ n, n ≠ c.boundName → ctes.lookup n = ctes'.lookup n
  outer : ∀ n, n ∉ b.visible → ctes'.lookup n = base.lookup n

/-- The scopes hold the same, whatever is bound. -/
abbrev CteScope.Same (b : Binders) (ctes ctes' : CteScope) : Prop :=
  CteScope.Agree (fun _ => True) b ctes ctes'

namespace CteScope.Extends

theorem start : Extends schema base c {} (c.binding schema base :: base) base := by
  rw [c.binding_eq]
  constructor
  case current => exact List.not_mem_nil
  case held => rw [List.lookup_cons_self, c.binding_eq]
  case others =>
    intro n hn
    rw [List.lookup_cons, beq_eq_false_iff_ne.mpr hn]
  case outer => exact fun _ _ => rfl

/-- Only what is visible matters. -/
theorem congr {b' : Binders} (h : Extends schema base c b ctes ctes')
    (hb : b'.visible = b.visible) : Extends schema base c b' ctes ctes' :=
  ⟨hb ▸ h.current, h.held, h.others, hb ▸ h.outer⟩

/-- Another name is bound. -/
theorem bind {outputs : List Output} (h : Extends schema base c b ctes ctes')
    (hd : d.boundName ≠ c.boundName) :
    Extends schema base c (b.bind d) ((d.boundName, outputs) :: ctes)
      ((d.boundName, outputs) :: ctes') := by
  constructor
  case current => exact List.not_mem_cons_of_ne_of_not_mem hd.symm h.current
  case held => rw [List.lookup_cons, beq_eq_false_iff_ne.mpr hd.symm, h.held]
  case others =>
    intro n hn
    rw [List.lookup_cons, List.lookup_cons, h.others n hn]
  case outer =>
    intro n hn
    obtain ⟨hne, hn⟩ := List.ne_and_not_mem_of_not_mem_cons hn
    rw [List.lookup_cons, beq_eq_false_iff_ne.mpr hne, h.outer n hn]

/-- The name is bound anew: nothing is left to tell the scopes apart. -/
theorem rebind {outputs : List Output} (h : Extends schema base c b ctes ctes')
    (hd : d.boundName = c.boundName) :
    Same (b.bind d) ((d.boundName, outputs) :: ctes) ((d.boundName, outputs) :: ctes') := by
  intro n _
  by_cases hn : n = c.boundName
  · rw [hn, hd, List.lookup_cons_self, List.lookup_cons_self]
  · rw [List.lookup_cons, List.lookup_cons, h.others n hn]

/-- The definition has the same outputs where it is inlined as where it stands. -/
theorem outputs_query (h : Extends schema base c b ctes ctes')
    (hfree : FreeNames (· ∉ b.visible) (c.query.references {})) :
    c.query.outputs schema ctes' = c.query.outputs schema base := by
  refine c.query.outputs_congr (b := {}) .rfl (fun n hn => h.outer n ?_) hfree
  exact hn.resolve_left List.not_mem_nil

/-- A reference and the derived table that takes its place are the same relation. -/
theorem derived_addTo {name : ObjectName} {label : Option TableAlias} {sample : List Piece}
    {scope : Scope} (h : Extends schema base c b ctes ctes') (hname : c.isNamed name)
    (hrefs : c.CaptureFree [⟨name, b⟩]) :
    scope.push (namedRelation schema ctes name label) =
      (c.derived name label sample).addTo schema ctes' scope := by
  have hkey : Text.lower name.path = c.boundName := beq_iff_eq.mp hname
  have hfree := hrefs _ (List.mem_singleton_self _) hkey h.current
  have hheld := h.held
  rw [c.binding_eq, ← h.outputs_query hfree, ← hkey] at hheld
  cases label <;>
    simp only [namedRelation, hheld, Cte.derived, TableFactor.addTo, Option.map_none,
      Option.map_some, Option.getD_none, Option.getD_some, ObjectName.value_toIdent]

/-- Other names stand for the same in both scopes. -/
theorem namedRelation {name : ObjectName} {label : Option TableAlias}
    (h : Extends schema base c b ctes ctes') (hname : ¬ c.isNamed name) :
    namedRelation schema ctes name label = namedRelation schema ctes' name label := by
  have hkey : Text.lower name.path ≠ c.boundName := fun heq => hname (beq_iff_eq.mpr heq)
  simp only [Sql.namedRelation, h.others _ hkey]

end CteScope.Extends

-- The induction is on the syntax. Either a clause leaves the name of the common table expression
-- alone, and its body is entered with scopes that still differ in it alone, or the name is bound
-- anew and the rest of the query has the same outputs in both scopes.

mutual

/-- Inlining does not change the outputs of a query. -/
theorem Query.outputs_inline {b : Binders} {ctes ctes' : CteScope}
    (h : CteScope.Extends schema base c b ctes ctes') :
    (q : Query) → c.CaptureFree (q.references b) → q.labelled →
      q.outputs schema ctes = (q.inline c).outputs schema ctes'
  | ⟨isRecursive, cs, body, rest⟩, hrefs, hlabelled => by
    obtain ⟨hcs, hbody⟩ := Bool.and_eq_true_iff.mp hlabelled
    have hrefs := (Cte.captureFree_append.mp (Cte.captureFree_append.mp hrefs).1)
    rw [Query.inline]
    rcases bindCtes_inline h (Binders.visible_enter isRecursive cs) cs hrefs.1 hcs with
      ⟨hrebound, hsame⟩ | ⟨hkept, hextends⟩
    · rw [if_pos hrebound]
      exact body.outputs_congr .rfl hsame freeNames_true
    · rw [if_neg hkept]
      exact body.outputs_inline hextends hrefs.2 hbody
termination_by structural q => q

/-- Binding the expressions of a statement comes to the same after inlining where the name is bound
again, and goes on extending the scope where it is not. -/
theorem bindCtes_inline {b inside : Binders} {ctes ctes' : CteScope}
    (h : CteScope.Extends schema base c b ctes ctes') (hinside : inside.visible = b.visible) :
    (cs : List Cte) → c.CaptureFree (cteReferences inside cs) → labelledCtes cs →
      (c.isRebound cs ∧ CteScope.Same (cs.foldl Binders.bind b) (bindCtes schema ctes cs)
        (bindCtes schema ctes' (inlineCtes c cs))) ∨
      (¬ c.isRebound cs ∧ CteScope.Extends schema base c (cs.foldl Binders.bind b)
        (bindCtes schema ctes cs) (bindCtes schema ctes' (inlineCtes c cs)))
  | [], _, _ => .inr ⟨Bool.false_ne_true, h⟩
  | d :: rest, hrefs, hlabelled => by
    obtain ⟨hd, hrest⟩ := Bool.and_eq_true_iff.mp hlabelled
    obtain ⟨hdrefs, hrestrefs⟩ := Cte.captureFree_append.mp hrefs
    have hbinding := d.binding_inline (h.congr hinside) hdrefs hd
    rw [inlineCtes, bindCtes, bindCtes, ← hbinding, d.binding_eq, Cte.isRebound, List.any_cons,
      ← Cte.isRebound]
    by_cases hname : d.boundName = c.boundName
    · rw [if_pos hname, beq_iff_eq.mpr hname]
      exact .inl ⟨rfl, bindCtes_congr .rfl (h.rebind hname) rfl rest freeNames_true⟩
    · rw [if_neg hname, beq_eq_false_iff_ne.mpr hname]
      have hinside := congrArg (d.boundName :: ·) hinside
      exact bindCtes_inline (h.bind hname) hinside rest hrestrefs hrest
termination_by structural cs => cs

theorem Cte.binding_inline {b : Binders} {ctes ctes' : CteScope}
    (h : CteScope.Extends schema base c b ctes ctes') :
    (d : Cte) → c.CaptureFree (d.references b) → d.labelled →
      d.binding schema ctes = (c.inline d).binding schema ctes'
  | ⟨_, _, query, _⟩, hrefs, hlabelled => by
    rw [Cte.inline, Cte.binding, Cte.binding, query.outputs_inline h hrefs hlabelled]
termination_by structural d => d

/-- The outputs of a body are the same after inlining, by recursion on the text; the lemmas that
follow say so of every other part of a statement. -/
theorem Body.outputs_inline {b : Binders} {ctes ctes' : CteScope}
    (h : CteScope.Extends schema base c b ctes ctes') :
    (body : Body) → c.CaptureFree (body.references b) → body.labelled →
      body.outputs schema ctes = (body.inline c).outputs schema ctes'
  | .select s, hrefs, hlabelled => s.outputs_inline h hrefs hlabelled
  | .query q, hrefs, hlabelled => q.outputs_inline h hrefs hlabelled
  | .setOp left _ right, hrefs, hlabelled => by
    obtain ⟨hleft, hright⟩ := Bool.and_eq_true_iff.mp hlabelled
    exact congrArg₂ mergeByPlace (left.outputs_inline h (Cte.captureFree_append.mp hrefs).1 hleft)
      (right.outputs_inline h (Cte.captureFree_append.mp hrefs).2 hright)
  | .other _, _, _ => rfl
termination_by structural body => body

theorem Select.outputs_inline {b : Binders} {ctes ctes' : CteScope}
    (h : CteScope.Extends schema base c b ctes ctes') :
    (s : Select) → c.CaptureFree (s.references b) → s.labelled →
      s.outputs schema ctes = (s.inline c).outputs schema ctes'
  | ⟨_, head, items, into, sources, rest⟩, hrefs, hlabelled => by
    obtain ⟨hitems, hsources⟩ := Bool.and_eq_true_iff.mp hlabelled
    have hrefs : c.CaptureFree (itemReferences b items) ∧
        c.CaptureFree (sourceReferences b sources) := by
      simp only [Select.references, Cte.captureFree_append] at hrefs
      exact ⟨hrefs.1.1.1.2, hrefs.1.2⟩
    rw [Select.inline, Select.outputs, Select.outputs,
      sourceScope_inline h {} sources hrefs.2 hsources, itemOutputs_inline h _ items hrefs.1 hitems]
termination_by structural s => s

theorem itemOutputs_inline {b : Binders} {ctes ctes' : CteScope}
    (h : CteScope.Extends schema base c b ctes ctes') (scope : Scope) :
    (is : List Item) → c.CaptureFree (itemReferences b is) → labelledItems is →
      itemOutputs schema ctes scope is = itemOutputs schema ctes' scope (inlineItems c is)
  | [], _, _ => rfl
  | i :: rest, hrefs, hlabelled => by
    obtain ⟨hi, hrest⟩ := Bool.and_eq_true_iff.mp hlabelled
    exact congrArg₂ (· ++ ·) (i.outputs_inline h scope (Cte.captureFree_append.mp hrefs).1 hi)
      (itemOutputs_inline h scope rest (Cte.captureFree_append.mp hrefs).2 hrest)
termination_by structural is => is

theorem Item.outputs_inline {b : Binders} {ctes ctes' : CteScope}
    (h : CteScope.Extends schema base c b ctes ctes') (scope : Scope) :
    (i : Item) → c.CaptureFree (i.references b) → i.labelled →
      i.outputs schema ctes scope = (i.inline c).outputs schema ctes' scope
  | .unnamed e, hrefs, hplain => by
    have hsources := e.sources_inline h scope hrefs (e.labelled_of_isPlain hplain)
    rw [Item.inline, Item.outputs, Item.outputs, hsources, e.inline_of_isPlain c hplain]
  | .aliased e _, hrefs, hlabelled => by
    rw [Item.inline, Item.outputs, Item.outputs, e.sources_inline h scope hrefs hlabelled]
  | .wildcard _, _, _ | .tableWildcard _ _, _, _ | .exprWildcard _ _, _, _ => rfl
termination_by structural i => i

theorem Expr.sources_inline {b : Binders} {ctes ctes' : CteScope}
    (h : CteScope.Extends schema base c b ctes ctes') (scope : Scope) :
    (e : Expr) → c.CaptureFree (e.references b) → e.labelled →
      e.sources schema ctes scope = (e.inline c).sources schema ctes' scope
  | .column [], _, _ | .column [_], _, _ | .column (_ :: _ :: _), _, _ | .literal _, _, _ => rfl
  | .nested inner, hrefs, hlabelled => inner.sources_inline h scope hrefs hlabelled
  | .cast _ inner _, hrefs, hlabelled => inner.sources_inline h scope hrefs hlabelled
  | .call _ rest, hrefs, hlabelled => pieceSources_inline h scope rest hrefs hlabelled
  | .access root steps, hrefs, hlabelled => by
    obtain ⟨hroot, hsteps⟩ := Bool.and_eq_true_iff.mp hlabelled
    exact congrArg₂ Sources.union
      (root.sources_inline h scope (Cte.captureFree_append.mp hrefs).1 hroot)
      (pieceSources_inline h scope steps (Cte.captureFree_append.mp hrefs).2 hsteps)
  | .phrase pieces, hrefs, hlabelled => pieceSources_inline h scope pieces hrefs hlabelled
termination_by structural e => e

theorem pieceSources_inline {b : Binders} {ctes ctes' : CteScope}
    (h : CteScope.Extends schema base c b ctes ctes') (scope : Scope) :
    (ps : List Piece) → c.CaptureFree (pieceReferences b ps) → labelledPieces ps →
      pieceSources schema ctes scope ps = pieceSources schema ctes' scope (inlinePieces c ps)
  | [], _, _ => rfl
  | p :: rest, hrefs, hlabelled => by
    obtain ⟨hp, hrest⟩ := Bool.and_eq_true_iff.mp hlabelled
    exact congrArg₂ Sources.union
      (p.sources_inline h scope (Cte.captureFree_append.mp hrefs).1 hp)
      (pieceSources_inline h scope rest (Cte.captureFree_append.mp hrefs).2 hrest)
termination_by structural ps => ps

theorem Piece.sources_inline {b : Binders} {ctes ctes' : CteScope}
    (h : CteScope.Extends schema base c b ctes ctes') (scope : Scope) :
    (p : Piece) → c.CaptureFree (p.references b) → p.labelled →
      p.sources schema ctes scope = (p.inline c).sources schema ctes' scope
  | .expr e, hrefs, hlabelled => e.sources_inline h scope hrefs hlabelled
  | .query q, hrefs, hlabelled => by
    rw [Piece.inline, Piece.sources, Piece.sources, q.outputs_inline h hrefs hlabelled]
  | .text _, _, _ | .table _, _, _ | .factor _, _, _ | .source _, _, _ => rfl
termination_by structural p => p

theorem sourceScope_inline {b : Binders} {ctes ctes' : CteScope}
    (h : CteScope.Extends schema base c b ctes ctes') (scope : Scope) :
    (ts : List TableWithJoins) → c.CaptureFree (sourceReferences b ts) → labelledSources ts →
      sourceScope schema ctes scope ts = sourceScope schema ctes' scope (inlineSources c ts)
  | [], _, _ => rfl
  | t :: rest, hrefs, hlabelled => by
    obtain ⟨ht, hrest⟩ := Bool.and_eq_true_iff.mp hlabelled
    rw [inlineSources, sourceScope, sourceScope,
      t.addTo_inline h scope (Cte.captureFree_append.mp hrefs).1 ht,
      sourceScope_inline h _ rest (Cte.captureFree_append.mp hrefs).2 hrest]
termination_by structural ts => ts

theorem TableWithJoins.addTo_inline {b : Binders} {ctes ctes' : CteScope}
    (h : CteScope.Extends schema base c b ctes ctes') (scope : Scope) :
    (t : TableWithJoins) → c.CaptureFree (t.references b) → t.labelled →
      t.addTo schema ctes scope = (t.inline c).addTo schema ctes' scope
  | ⟨relation, joins⟩, hrefs, hlabelled => by
    obtain ⟨hrelation, hjoins⟩ := Bool.and_eq_true_iff.mp hlabelled
    rw [TableWithJoins.inline, TableWithJoins.addTo, TableWithJoins.addTo,
      relation.addTo_inline h scope (Cte.captureFree_append.mp hrefs).1 hrelation,
      joinScope_inline h _ joins (Cte.captureFree_append.mp hrefs).2 hjoins]
termination_by structural t => t

theorem joinScope_inline {b : Binders} {ctes ctes' : CteScope}
    (h : CteScope.Extends schema base c b ctes ctes') (scope : Scope) :
    (js : List Join) → c.CaptureFree (joinReferences b js) → labelledJoins js →
      joinScope schema ctes scope js = joinScope schema ctes' scope (inlineJoins c js)
  | [], _, _ => rfl
  | j :: rest, hrefs, hlabelled => by
    obtain ⟨hj, hrest⟩ := Bool.and_eq_true_iff.mp hlabelled
    rw [inlineJoins, joinScope, joinScope,
      j.addTo_inline h scope (Cte.captureFree_append.mp hrefs).1 hj,
      joinScope_inline h _ rest (Cte.captureFree_append.mp hrefs).2 hrest]
termination_by structural js => js

theorem Join.addTo_inline {b : Binders} {ctes ctes' : CteScope}
    (h : CteScope.Extends schema base c b ctes ctes') (scope : Scope) :
    (j : Join) → c.CaptureFree (j.references b) → j.labelled →
      j.addTo schema ctes scope = (j.inline c).addTo schema ctes' scope
  | ⟨_, _, relation, _, constraint⟩, hrefs, hlabelled => by
    have hrelation := (Cte.captureFree_append.mp (Cte.captureFree_append.mp hrefs).1).1
    rw [Join.inline, Join.addTo, Join.addTo, relation.addTo_inline h scope hrelation hlabelled]
    cases constraint <;> rfl
termination_by structural j => j

theorem TableFactor.addTo_inline {b : Binders} {ctes ctes' : CteScope}
    (h : CteScope.Extends schema base c b ctes ctes') (scope : Scope) :
    (f : TableFactor) → c.CaptureFree (f.references b) → f.labelled →
      f.addTo schema ctes scope = (f.inline c).addTo schema ctes' scope
  | .table name _ label _, hrefs, _ => by
    have hname : c.CaptureFree [⟨name, b⟩] :=
      List.forall_mem_singleton.mpr (List.forall_mem_cons.mp hrefs).1
    rw [TableFactor.inline, TableFactor.addTo]
    by_cases hc : c.isNamed name
    · rw [if_pos hc]
      exact h.derived_addTo hc hname
    · rw [if_neg hc, TableFactor.addTo, h.namedRelation hc]
  | .derived _ query label _, hrefs, hlabelled => by
    have houtputs := query.outputs_inline h (Cte.captureFree_append.mp hrefs).1 hlabelled
    cases label <;> simp only [TableFactor.inline, TableFactor.addTo, houtputs]
  | .nested inner label, hrefs, hlabelled => by
    have hnested := inner.addTo_inline h {} hrefs hlabelled
    cases label <;> simp only [TableFactor.inline, TableFactor.addTo, hnested]
  | .other _, _, _ => rfl
termination_by structural f => f

end

/-- **A common table expression may be inlined**: the query has the outputs that it has with the
definition in place of every reference, for any schema and wherever it stands. No clause in between
may bind a name that is free in the definition, and items that are named by their spelling may not
hold a query. -/
theorem outputs_inline_cte {body : Body} {rest : List Piece}
    (hfree : c.CaptureFree (body.references {})) (hlabelled : body.labelled) :
    Query.outputs schema ctes ⟨false, [c], body, rest⟩ =
      Query.outputs schema ctes ⟨false, [], body.inline c, inlinePieces c rest⟩ :=
  body.outputs_inline .start hfree hlabelled

/-- A select of column `id` from a table. -/
def selectId (table : String) (label : Option TableAlias) : Query :=
  ⟨false, [], .select ⟨false, [], [.unnamed (.column [⟨"id", none⟩])], [],
    [⟨.table ⟨[⟨table, none⟩]⟩ [] label [], []⟩], []⟩, []⟩

/-- The orders by another name. -/
def recentCte : Cte :=
  ⟨⟨true, ⟨"recent", none⟩, [⟨⟨"id", none⟩, ""⟩]⟩, "", selectId "orders" none, none⟩

/-- Uses by the name, by an alias, and in the definition of another one of this name. -/
def recentBody : Body :=
  .select ⟨false, [], [.wildcard [], .aliased (.phrase [.text "(", .query (selectId "recent" none),
    .text ")"]) ⟨"one", none⟩], [], [⟨.derived false ⟨false, [⟨⟨true, ⟨"recent", none⟩, []⟩, "",
      selectId "recent" (some ⟨false, ⟨"r", none⟩, []⟩), none⟩], (selectId "recent" none).body, []⟩
      (some ⟨true, ⟨"o", none⟩, []⟩) [], []⟩], []⟩

/-- The use after the other definition stands for it, and is not replaced. -/
theorem recent_inlined : (recentBody.inline recentCte).render =
      "SELECT *, (SELECT id FROM (SELECT id FROM orders) AS recent (id)) AS one FROM " ++
        "(WITH recent AS (SELECT id FROM (SELECT id FROM orders) AS r (id)) " ++
        "SELECT id FROM recent) AS o" ∧
    Query.outputs {} [] ⟨false, [recentCte], recentBody, []⟩ =
      Query.outputs {} [] ⟨false, [], recentBody.inline recentCte, []⟩ ∧
    Query.outputs {} [] ⟨false, [recentCte], recentBody, []⟩ =
      [⟨"id", [⟨"orders", "id"⟩]⟩, ⟨"one", [⟨"orders", "id"⟩]⟩] :=
  ⟨by decide +kernel, outputs_inline_cte (by decide +kernel) (by decide +kernel),
    by decide +kernel⟩

end AssetFlow.Sql
