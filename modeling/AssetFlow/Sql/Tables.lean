import AssetFlow.Sql.Grammar.Statement

/-!
# Tables that a statement mentions

Every table that a statement reads or writes, anywhere in it, less the names that some `WITH`
clause of the statement binds.

## Main definitions

- `Mention`: a table, or a name bound by a `WITH` clause.
- `Statement.mentions`: all of them, in the order of the text.
- `Statement.tables`: the names of the tables, sorted, without the bound ones.
-/

namespace AssetFlow.Sql

/-- Something that a statement names. -/
inductive Mention
  | table (name : ObjectName)
  | bound (name : Ident)
  deriving DecidableEq, Repr

mutual

/-- What an expression mentions. -/
def Expr.mentions : Expr → List Mention
  | .column _ | .literal _ => []
  | .nested inner => inner.mentions
  | .cast _ inner _ => inner.mentions
  | .call _ rest => pieceMentions rest
  | .access root steps => root.mentions ++ pieceMentions steps
  | .phrase pieces => pieceMentions pieces
termination_by structural e => e

/-- What a row of pieces mentions. -/
def pieceMentions : List Piece → List Mention
  | [] => []
  | p :: rest => p.mentions ++ pieceMentions rest
termination_by structural ps => ps

/-- What a piece mentions. -/
def Piece.mentions : Piece → List Mention
  | .text _ => []
  | .expr e => e.mentions
  | .query q => q.mentions
  | .table name => [.table name]
  | .factor f => f.mentions
  | .source t => t.mentions
termination_by structural p => p

/-- What a query mentions. -/
def Query.mentions : Query → List Mention
  | ⟨_, ctes, body, rest⟩ => cteMentions ctes ++ body.mentions ++ pieceMentions rest
termination_by structural q => q

/-- What common table expressions mention. -/
def cteMentions : List Cte → List Mention
  | [] => []
  | c :: rest => c.mentions ++ cteMentions rest
termination_by structural cs => cs

/-- What a common table expression mentions. -/
def Cte.mentions : Cte → List Mention
  | ⟨label, _, query, _⟩ => .bound label.name :: query.mentions
termination_by structural c => c

/-- What a query body mentions. -/
def Body.mentions : Body → List Mention
  | .select s => s.mentions
  | .query q => q.mentions
  | .setOp left _ right => left.mentions ++ right.mentions
  | .other pieces => pieceMentions pieces
termination_by structural b => b

/-- What a select mentions. -/
def Select.mentions : Select → List Mention
  | ⟨_, head, items, into, sources, rest⟩ =>
    pieceMentions head ++ itemMentions items ++ pieceMentions into ++ sourceMentions sources ++
      pieceMentions rest
termination_by structural s => s

/-- What a projection mentions. -/
def itemMentions : List Item → List Mention
  | [] => []
  | i :: rest => i.mentions ++ itemMentions rest
termination_by structural is => is

/-- What a projection item mentions. -/
def Item.mentions : Item → List Mention
  | .unnamed e => e.mentions
  | .aliased e _ => e.mentions
  | .wildcard options => pieceMentions options
  | .tableWildcard _ options => pieceMentions options
  | .exprWildcard e options => e.mentions ++ pieceMentions options
termination_by structural i => i

/-- What a list of relations mentions. -/
def sourceMentions : List TableWithJoins → List Mention
  | [] => []
  | t :: rest => t.mentions ++ sourceMentions rest
termination_by structural ts => ts

/-- What a relation with its joins mentions. -/
def TableWithJoins.mentions : TableWithJoins → List Mention
  | ⟨relation, joins⟩ => relation.mentions ++ joinMentions joins
termination_by structural t => t

/-- What a relation mentions. -/
def TableFactor.mentions : TableFactor → List Mention
  | .table name arguments _ hints =>
    .table name :: (pieceMentions arguments ++ pieceMentions hints)
  | .derived _ query _ sample => query.mentions ++ pieceMentions sample
  | .nested inner _ => inner.mentions
  | .other pieces => pieceMentions pieces
termination_by structural f => f

/-- What joins mention. -/
def joinMentions : List Join → List Mention
  | [] => []
  | j :: rest => j.mentions ++ joinMentions rest
termination_by structural js => js

/-- What a join mentions. -/
def Join.mentions : Join → List Mention
  | ⟨_, _, relation, matching, constraint⟩ =>
    relation.mentions ++ pieceMentions matching ++ constraint.mentions
termination_by structural j => j

/-- What the constraint of a join mentions. -/
def JoinConstraint.mentions : JoinConstraint → List Mention
  | .none | .natural | .using _ => []
  | .on e => e.mentions
termination_by structural c => c

end

/-- What a statement mentions. -/
def Statement.mentions : Statement → List Mention
  | .query q => q.mentions
  | .command pieces => pieceMentions pieces

/-- The path of a mentioned table. -/
def Mention.tablePath? : Mention → Option String
  | .table name => some name.path
  | .bound _ => none

/-- The lower case of a bound name. -/
def Mention.boundName? : Mention → Option String
  | .table _ => none
  | .bound name => some (Text.lower name.value)

/-- The texts in ascending order, each once. -/
def sortedDistinct (xs : List String) : List String :=
  (xs.mergeSort (fun a b => decide (a ≤ b))).eraseReps

/-- The tables that a statement mentions, in ascending order, less the names that its `WITH`
clauses bind. -/
def Statement.tables (s : Statement) : List String :=
  let bound := s.mentions.filterMap Mention.boundName?
  (sortedDistinct (s.mentions.filterMap Mention.tablePath?)).filter fun t =>
    !bound.contains (Text.lower t)

end AssetFlow.Sql
