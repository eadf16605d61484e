import AssetFlow.Sql.Tables
import Mathlib.Tactic.Common

/-!
# References and the clauses that bind them

A name after `FROM` refers to a common table expression if a `WITH` clause binds it at that place,
and to a table otherwise. `Query.references` lists the names of a query with what is bound where
they stand: a definition sees those before it, and, in a recursive clause, all of its clause; the
rest of the query sees all. The names are those that `Query.mentions` lists without regard to place
(`Query.traces`).

## Main definitions

- `Binders`: what `WITH` clauses bind at a place
- `Reference`, `Reference.Bound`: a name of a table or of a common table expression
- `Statement.references`: all names of a statement
- `Statement.BindsInScope`, `Statement.BindsAhead`: where the names of the clauses are used

## Main statements

- `Statement.mem_tables_iff`: the tables of a statement are the names that no clause binds anywhere
- `Statement.bindsInScope_iff`: what is left out is bound where it stands, just if the names of the
  clauses are used in scope
-/

namespace AssetFlow.Sql

/-- The name that a common table expression binds, in lower case. -/
def Cte.boundName (c : Cte) : String :=
  Text.lower c.label.name.value

/-- What `WITH` clauses bind at a place, in lower case. -/
structure Binders where
  /-- The names bound ahead of the place, the latest first. -/
  visible : List String := []
  /-- The names of the recursive clauses in whose definitions the place is. -/
  recursive : List String := []

namespace Binders

/-- What is bound after a common table expression. -/
def bind (b : Binders) (c : Cte) : Binders :=
  { b with visible := c.boundName :: b.visible }

/-- What is bound in the definitions of a clause. -/
def enter (b : Binders) (isRecursive : Bool) (ctes : List Cte) : Binders :=
  if isRecursive then { b with recursive := ctes.map Cte.boundName ++ b.recursive } else b

/-- Entering a statement with common table expressions brings no name into view by itself. -/
theorem visible_enter {b : Binders} (isRecursive : Bool) (ctes : List Cte) :
    (b.enter isRecursive ctes).visible = b.visible := by
  cases isRecursive <;> rfl

/-- Only these names are bound. -/
def BindsOnly (b : Binders) (names : List String) : Prop :=
  b.visible ⊆ names ∧ b.recursive ⊆ names

variable {b : Binders} {names : List String} {ctes : List Cte}

/-- Names come into view one after the other, the latest first. -/
theorem visible_foldl_bind : (ctes.foldl bind b).visible =
    (ctes.map Cte.boundName).reverse ++ b.visible := by
  induction ctes generalizing b with
  | nil => rfl
  | cons c rest ih =>
    rw [List.foldl_cons, ih]
    simp [bind]

/-- Binding names does not make them recursive. -/
theorem recursive_foldl_bind : (ctes.foldl bind b).recursive = b.recursive := by
  induction ctes generalizing b with
  | nil => rfl
  | cons c rest ih => exact ih

/-- Binding names of the list keeps to the list. -/
theorem BindsOnly.foldl_bind (hb : b.BindsOnly names) (hctes : ctes.map Cte.boundName ⊆ names) :
    (ctes.foldl bind b).BindsOnly names := by
  constructor
  · rw [visible_foldl_bind]
    exact List.append_subset.mpr ⟨fun n hn => hctes (List.mem_reverse.mp hn), hb.1⟩
  · rw [recursive_foldl_bind]
    exact hb.2

/-- Entering a statement that binds names of the list keeps to the list. -/
theorem BindsOnly.enter {isRecursive : Bool} (hb : b.BindsOnly names)
    (hctes : ctes.map Cte.boundName ⊆ names) : (b.enter isRecursive ctes).BindsOnly names := by
  cases isRecursive with
  | false => exact hb
  | true => exact ⟨hb.1, List.append_subset.mpr ⟨hctes, hb.2⟩⟩

end Binders

/-- A name that stands for a table or a common table expression, and what is bound there. -/
structure Reference where
  name : ObjectName
  binders : Binders

namespace Reference

/-- The name as it is looked up among bound names. -/
def key (r : Reference) : String :=
  Text.lower r.name.path

/-- A `WITH` clause binds the name where it stands. -/
def Bound (r : Reference) : Prop :=
  r.key ∈ r.binders.visible ∨ r.key ∈ r.binders.recursive

instance (r : Reference) : Decidable r.Bound :=
  inferInstanceAs (Decidable (_ ∨ _))

end Reference

mutual

def Expr.references (b : Binders) : Expr → List Reference
  | .column _ | .literal _ => []
  | .nested inner => inner.references b
  | .cast _ inner _ => inner.references b
  | .call _ rest => pieceReferences b rest
  | .access root steps => root.references b ++ pieceReferences b steps
  | .phrase pieces => pieceReferences b pieces
termination_by structural e => e

def pieceReferences (b : Binders) : List Piece → List Reference
  | [] => []
  | p :: rest => p.references b ++ pieceReferences b rest
termination_by structural ps => ps

def Piece.references (b : Binders) : Piece → List Reference
  | .text _ => []
  | .expr e => e.references b
  | .query q => q.references b
  | .table name => [⟨name, b⟩]
  | .factor f => f.references b
  | .source t => t.references b
termination_by structural p => p

/-- The names in a query, where `b` is bound around it. -/
def Query.references (b : Binders) : Query → List Reference
  | ⟨isRecursive, ctes, body, rest⟩ =>
    let inside := ctes.foldl Binders.bind b
    cteReferences (b.enter isRecursive ctes) ctes ++ body.references inside ++
      pieceReferences inside rest
termination_by structural q => q

/-- The names in the definitions of a clause, each of which sees those before it. -/
def cteReferences (b : Binders) : List Cte → List Reference
  | [] => []
  | c :: rest => c.references b ++ cteReferences (b.bind c) rest
termination_by structural cs => cs

def Cte.references (b : Binders) : Cte → List Reference
  | ⟨_, _, query, _⟩ => query.references b
termination_by structural c => c

def Body.references (b : Binders) : Body → List Reference
  | .select s => s.references b
  | .query q => q.references b
  | .setOp left _ right => left.references b ++ right.references b
  | .other pieces => pieceReferences b pieces
termination_by structural b => b

def Select.references (b : Binders) : Select → List Reference
  | ⟨_, head, items, into, sources, rest⟩ =>
    pieceReferences b head ++ itemReferences b items ++ pieceReferences b into ++
      sourceReferences b sources ++ pieceReferences b rest
termination_by structural s => s

def itemReferences (b : Binders) : List Item → List Reference
  | [] => []
  | i :: rest => i.references b ++ itemReferences b rest
termination_by structural is => is

def Item.references (b : Binders) : Item → List Reference
  | .unnamed e => e.references b
  | .aliased e _ => e.references b
  | .wildcard options => pieceReferences b options
  | .tableWildcard _ options => pieceReferences b options
  | .exprWildcard e options => e.references b ++ pieceReferences b options
termination_by structural i => i

def sourceReferences (b : Binders) : List TableWithJoins → List Reference
  | [] => []
  | t :: rest => t.references b ++ sourceReferences b rest
termination_by structural ts => ts

def TableWithJoins.references (b : Binders) : TableWithJoins → List Reference
  | ⟨relation, joins⟩ => relation.references b ++ joinReferences b joins
termination_by structural t => t

def TableFactor.references (b : Binders) : TableFactor → List Reference
  | .table name arguments _ hints =>
    ⟨name, b⟩ :: (pieceReferences b arguments ++ pieceReferences b hints)
  | .derived _ query _ sample => query.references b ++ pieceReferences b sample
  | .nested inner _ => inner.references b
  | .other pieces => pieceReferences b pieces
termination_by structural f => f

def joinReferences (b : Binders) : List Join → List Reference
  | [] => []
  | j :: rest => j.references b ++ joinReferences b rest
termination_by structural js => js

def Join.references (b : Binders) : Join → List Reference
  | ⟨_, _, relation, matching, constraint⟩ =>
    relation.references b ++ pieceReferences b matching ++ constraint.references b
termination_by structural j => j

def JoinConstraint.references (b : Binders) : JoinConstraint → List Reference
  | .none | .natural | .using _ => []
  | .on e => e.references b
termination_by structural c => c

end

/-- The names in a statement. -/
def Statement.references (s : Statement) : List Reference :=
  pieceReferences {} s.pieces

/-- The names that the clauses of a statement bind somewhere. -/
def Statement.boundNames (s : Statement) : List String :=
  s.mentions.filterMap Mention.boundName?

/-- The names of the clauses of a statement are used only where the clauses bind them. -/
def Statement.BindsInScope (s : Statement) : Prop :=
  ∀ r ∈ s.references, r.key ∈ s.boundNames → r.Bound

/-- The names of the clauses of a statement are used only after the clauses. -/
def Statement.BindsAhead (s : Statement) : Prop :=
  ∀ r ∈ s.references, r.key ∈ s.boundNames → r.key ∈ r.binders.visible

instance (s : Statement) : Decidable s.BindsAhead :=
  inferInstanceAs
    (Decidable (∀ r ∈ s.references, r.key ∈ s.boundNames → r.key ∈ r.binders.visible))

/-! ### References and mentions -/

/-- References are the tables among some mentions, in their order. What is bound where they stand is
bound around them, or by the mentions. -/
structure Traces (b : Binders) (refs : List Reference) (ms : List Mention) : Prop where
  paths : refs.map (·.name.path) = ms.filterMap Mention.tablePath?
  bindsOnly : ∀ names, b.BindsOnly names → ms.filterMap Mention.boundName? ⊆ names →
    ∀ r ∈ refs, r.binders.BindsOnly names

namespace Traces

variable {b b' : Binders} {refs refs' : List Reference} {ms ms' : List Mention}

theorem nil : Traces b [] [] := by
  constructor <;> simp

theorem table {name : ObjectName} (h : Traces b refs ms) :
    Traces b (⟨name, b⟩ :: refs) (.table name :: ms) := by
  constructor
  · simp [h.paths, Mention.tablePath?]
  · intro names hb hms r hr
    rcases List.mem_cons.mp hr with rfl | hr
    · exact hb
    · exact h.bindsOnly names hb hms r hr

theorem bound {name : Ident} (h : Traces b refs ms) : Traces b refs (.bound name :: ms) := by
  constructor
  · exact h.paths
  · intro names hb hms
    exact h.bindsOnly names hb fun n hn => hms (List.mem_cons_of_mem _ hn)

/-- The second row may stand where the mentions of the first one are bound. -/
theorem append_under (h : Traces b refs ms) (h' : Traces b' refs' ms')
    (hb : ∀ names, b.BindsOnly names → ms.filterMap Mention.boundName? ⊆ names →
      b'.BindsOnly names) : Traces b (refs ++ refs') (ms ++ ms') := by
  constructor
  · rw [List.map_append, List.filterMap_append, h.paths, h'.paths]
  · intro names hnames hms r hr
    rw [List.filterMap_append, List.append_subset] at hms
    rcases List.mem_append.mp hr with hr | hr
    · exact h.bindsOnly names hnames hms.1 r hr
    · exact h'.bindsOnly names (hb names hnames hms.1) hms.2 r hr

/-- Traces are put together as the references and the mentions are. -/
theorem append (h : Traces b refs ms) (h' : Traces b refs' ms') :
    Traces b (refs ++ refs') (ms ++ ms') :=
  h.append_under h' fun _ hb _ => hb

/-- Mentions may themselves bind what is bound around them. -/
theorem under (h : Traces b' refs ms)
    (hb : ∀ names, b.BindsOnly names → ms.filterMap Mention.boundName? ⊆ names →
      b'.BindsOnly names) : Traces b refs ms := by
  constructor
  · exact h.paths
  · intro names hnames hms
    exact h.bindsOnly names (hb names hnames hms) hms

end Traces

/-- A common table expression mentions the name that it binds. -/
theorem Cte.boundName_mem (c : Cte) :
    c.boundName ∈ c.mentions.filterMap Mention.boundName? := by
  cases c
  exact List.mem_cons_self ..

/-- A clause mentions the names that it binds. -/
theorem map_boundName_subset {ctes : List Cte} :
    ctes.map Cte.boundName ⊆ (cteMentions ctes).filterMap Mention.boundName? := by
  induction ctes with
  | nil => exact List.nil_subset _
  | cons c rest ih =>
    intro n hn
    rw [cteMentions, List.filterMap_append, List.mem_append]
    rcases List.mem_cons.mp hn with rfl | hn
    · exact .inl c.boundName_mem
    · exact .inr (ih hn)

mutual

/-- The references in an expression are traced to what it mentions, by recursion on the text; the
lemmas that follow do the same for each other part of a statement. -/
theorem Expr.traces (b : Binders) : (e : Expr) → Traces b (e.references b) e.mentions
  | .column _ | .literal _ => .nil
  | .nested inner => inner.traces b
  | .cast _ inner _ => inner.traces b
  | .call _ rest => traces_pieces b rest
  | .access root steps => (root.traces b).append (traces_pieces b steps)
  | .phrase pieces => traces_pieces b pieces
termination_by structural e => e

theorem traces_pieces (b : Binders) :
    (ps : List Piece) → Traces b (pieceReferences b ps) (pieceMentions ps)
  | [] => .nil
  | p :: rest => (p.traces b).append (traces_pieces b rest)
termination_by structural ps => ps

theorem Piece.traces (b : Binders) : (p : Piece) → Traces b (p.references b) p.mentions
  | .text _ => .nil
  | .expr e => e.traces b
  | .query q => q.traces b
  | .table _ => .table .nil
  | .factor f => f.traces b
  | .source t => t.traces b
termination_by structural p => p

/-- The references of a query are the tables that it mentions. -/
theorem Query.traces (b : Binders) : (q : Query) → Traces b (q.references b) q.mentions
  | ⟨isRecursive, ctes, body, rest⟩ => by
    have hctes := (traces_ctes (b.enter isRecursive ctes) ctes).under (b := b)
      fun names hb hms => hb.enter (List.Subset.trans map_boundName_subset hms)
    refine (hctes.append_under (body.traces _) fun names hb hms => ?_).append_under
      (traces_pieces _ rest) fun names hb hms => ?_
    · exact hb.foldl_bind (List.Subset.trans map_boundName_subset hms)
    · rw [List.filterMap_append, List.append_subset] at hms
      exact hb.foldl_bind (List.Subset.trans map_boundName_subset hms.1)
termination_by structural q => q

theorem traces_ctes (b : Binders) :
    (cs : List Cte) → Traces b (cteReferences b cs) (cteMentions cs)
  | [] => .nil
  | c :: rest => by
    refine (c.traces b).append_under (traces_ctes (b.bind c) rest) fun names hb hms => ?_
    exact ⟨List.cons_subset.mpr ⟨hms c.boundName_mem, hb.1⟩, hb.2⟩
termination_by structural cs => cs

theorem Cte.traces (b : Binders) : (c : Cte) → Traces b (c.references b) c.mentions
  | ⟨_, _, query, _⟩ => .bound (query.traces b)
termination_by structural c => c

theorem Body.traces (b : Binders) : (body : Body) → Traces b (body.references b) body.mentions
  | .select s => s.traces b
  | .query q => q.traces b
  | .setOp left _ right => (left.traces b).append (right.traces b)
  | .other pieces => traces_pieces b pieces
termination_by structural body => body

theorem Select.traces (b : Binders) : (s : Select) → Traces b (s.references b) s.mentions
  | ⟨_, head, items, into, sources, rest⟩ =>
    ((((traces_pieces b head).append (traces_items b items)).append (traces_pieces b into)).append
      (traces_sources b sources)).append (traces_pieces b rest)
termination_by structural s => s

theorem traces_items (b : Binders) :
    (is : List Item) → Traces b (itemReferences b is) (itemMentions is)
  | [] => .nil
  | i :: rest => (i.traces b).append (traces_items b rest)
termination_by structural is => is

theorem Item.traces (b : Binders) : (i : Item) → Traces b (i.references b) i.mentions
  | .unnamed e => e.traces b
  | .aliased e _ => e.traces b
  | .wildcard options => traces_pieces b options
  | .tableWildcard _ options => traces_pieces b options
  | .exprWildcard e options => (e.traces b).append (traces_pieces b options)
termination_by structural i => i

theorem traces_sources (b : Binders) :
    (ts : List TableWithJoins) → Traces b (sourceReferences b ts) (sourceMentions ts)
  | [] => .nil
  | t :: rest => (t.traces b).append (traces_sources b rest)
termination_by structural ts => ts

theorem TableWithJoins.traces (b : Binders) :
    (t : TableWithJoins) → Traces b (t.references b) t.mentions
  | ⟨relation, joins⟩ => (relation.traces b).append (traces_joins b joins)
termination_by structural t => t

theorem TableFactor.traces (b : Binders) :
    (f : TableFactor) → Traces b (f.references b) f.mentions
  | .table _ arguments _ hints =>
    .table ((traces_pieces b arguments).append (traces_pieces b hints))
  | .derived _ query _ sample => (query.traces b).append (traces_pieces b sample)
  | .nested inner _ => inner.traces b
  | .other pieces => traces_pieces b pieces
termination_by structural f => f

theorem traces_joins (b : Binders) :
    (js : List Join) → Traces b (joinReferences b js) (joinMentions js)
  | [] => .nil
  | j :: rest => (j.traces b).append (traces_joins b rest)
termination_by structural js => js

theorem Join.traces (b : Binders) : (j : Join) → Traces b (j.references b) j.mentions
  | ⟨_, _, relation, matching, constraint⟩ =>
    ((relation.traces b).append (traces_pieces b matching)).append (constraint.traces b)
termination_by structural j => j

theorem JoinConstraint.traces (b : Binders) :
    (c : JoinConstraint) → Traces b (c.references b) c.mentions
  | .none | .natural | .using _ => .nil
  | .on e => e.traces b
termination_by structural c => c

end

/-- Dropping repetitions drops no element altogether. -/
theorem mem_eraseReps {xs : List String} {t : String} : t ∈ xs.eraseReps ↔ t ∈ xs := by
  -- the loop holds back the value that may be repeated
  have hloop : ∀ (x : String) (xs kept : List String),
      t ∈ List.eraseRepsBy.loop (· == ·) x xs kept ↔ t ∈ kept ∨ t = x ∨ t ∈ xs := by
    intro x xs
    induction xs generalizing x with
    | nil => simp [List.eraseRepsBy.loop, or_comm]
    | cons y xs ih =>
      intro kept
      rw [List.eraseRepsBy.loop]
      split
      · next heq =>
        obtain rfl := beq_iff_eq.mp heq
        simp [ih]
      · simp only [ih, List.mem_cons, or_assoc, or_left_comm]
  cases xs with
  | nil => rfl
  | cons x xs =>
    show t ∈ List.eraseRepsBy.loop (· == ·) x xs [] ↔ t ∈ x :: xs
    rw [hloop, List.mem_cons]
    simp

/-- Sorting and dropping repetitions keeps the elements. -/
theorem mem_sortedDistinct {xs : List String} {t : String} : t ∈ sortedDistinct xs ↔ t ∈ xs := by
  rw [sortedDistinct, mem_eraseReps, List.mem_mergeSort]

namespace Statement

variable {s : Statement} {t : String}

/-- Every reference of a statement is traced to a name that the text mentions. -/
theorem traces (s : Statement) : Traces {} s.references s.mentions := by
  have hmentions : pieceMentions s.pieces = s.mentions := by
    cases s with
    | query q => exact List.append_nil _
    | command pieces => rfl
  exact hmentions ▸ traces_pieces {} s.pieces

/-- What is bound where a name stands is bound by some clause of the statement. -/
theorem mem_boundNames_of_bound {r : Reference} (hr : r ∈ s.references) (h : r.Bound) :
    r.key ∈ s.boundNames := by
  obtain ⟨hvisible, hrecursive⟩ := s.traces.bindsOnly s.boundNames
    ⟨List.nil_subset _, List.nil_subset _⟩ (List.Subset.refl _) r hr
  exact h.elim (hvisible ·) (hrecursive ·)

/-- The tables of a statement are the names that no clause binds anywhere. -/
theorem mem_tables_iff :
    t ∈ s.tables ↔ ∃ r ∈ s.references, r.name.path = t ∧ r.key ∉ s.boundNames := by
  have hpaths : t ∈ s.mentions.filterMap Mention.tablePath? ↔
      ∃ r ∈ s.references, r.name.path = t := by
    rw [← s.traces.paths, List.mem_map]
  have hfree : (!(s.mentions.filterMap Mention.boundName?).contains (Text.lower t)) = true ↔
      Text.lower t ∉ s.boundNames := by
    simp [boundNames]
  rw [tables, List.mem_filter, mem_sortedDistinct, hpaths, hfree]
  constructor
  · rintro ⟨⟨r, hr, rfl⟩, hkey⟩
    exact ⟨r, hr, rfl, hkey⟩
  · rintro ⟨r, hr, rfl, hkey⟩
    exact ⟨⟨r, hr, rfl⟩, hkey⟩

/-- A name is left out of the tables just if a clause binds it anywhere. -/
theorem not_mem_tables_iff {r : Reference} (hr : r ∈ s.references) :
    r.name.path ∉ s.tables ↔ r.key ∈ s.boundNames := by
  rw [mem_tables_iff]
  constructor
  · intro hleft
    by_contra hfree
    exact hleft ⟨r, hr, rfl, hfree⟩
  · rintro hbound ⟨r', -, hpath, hfree⟩
    rw [Reference.key, hpath] at hfree
    exact hfree hbound

/-- Only what is bound where it stands is left out, just if the names of the clauses are used in
scope. -/
theorem bindsInScope_iff :
    s.BindsInScope ↔ ∀ r ∈ s.references, r.name.path ∉ s.tables → r.Bound :=
  forall₂_congr fun _ hr => by rw [not_mem_tables_iff hr]

end Statement

end AssetFlow.Sql
