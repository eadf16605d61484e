import AssetFlow.Sql.Token

/-!
# Syntax of queries

The syntax tree keeps apart what decides where a value comes from: relations and their aliases,
common table expressions, projections, column references and nested queries. All other syntax is
kept as a row of *pieces*: its canonical spelling, interleaved with the expressions, queries and
tables that occur in it. A construct needs a shape of its own only where its meaning for lineage
does.

## Main definitions

- `Expr`, `Query`, `Body`, `Select`, `Item`, `TableFactor`, `Join`: the tree.
- `Piece`: a stretch of spelling or a part of the tree inside other syntax.
- `Statement`: a query, or any other statement with what it mentions.
-/

namespace AssetFlow.Sql

/-- An identifier and the quote that opens it, if it is quoted. -/
structure Ident where
  value : String
  quote : Option Char := none
  deriving DecidableEq, Repr, Inhabited

/-- A possibly qualified name. -/
structure ObjectName where
  parts : List Ident
  deriving DecidableEq, Repr, Inhabited

/-- The name as written, without quotes. -/
def ObjectName.path (n : ObjectName) : String :=
  ".".intercalate (n.parts.map Ident.value)

/-- A column of an alias, with its type if one is written. -/
structure AliasColumn where
  name : Ident
  type : String := ""
  deriving DecidableEq, Repr, Inhabited

/-- The alias of a relation and the names it gives to the first columns. -/
structure TableAlias where
  explicit : Bool
  name : Ident
  columns : List AliasColumn
  deriving DecidableEq, Repr, Inhabited

/-- The ways to join two relations. -/
inductive JoinKind
  | plain | inner | left | leftOuter | right | rightOuter | fullOuter
  | cross | semi | leftSemi | rightSemi | anti | leftAnti | rightAnti
  | crossApply | outerApply | asOf | straight
  deriving DecidableEq, Repr, Inhabited

mutual

/-- A scalar expression. -/
inductive Expr
  /-- A column reference: the column is the last identifier, what precedes it qualifies it. -/
  | column (path : List Ident)
  /-- An expression in parentheses. -/
  | nested (inner : Expr)
  /-- A conversion, spelled around the converted expression. -/
  | cast (before : String) (inner : Expr) (after : String)
  /-- A literal value in its spelling. -/
  | literal (spelling : String)
  /-- A function by name, and the spelling of its arguments and of what follows them. -/
  | call (name : ObjectName) (rest : List Piece)
  /-- An access path that is no plain column reference: fields and elements of an expression. -/
  | access (root : Expr) (steps : List Piece)
  /-- Any other expression. -/
  | phrase (pieces : List Piece)

/-- A stretch of canonical spelling, or a part of the tree inside other syntax. -/
inductive Piece
  | text (s : String)
  | expr (e : Expr)
  | query (q : Query)
  /-- A table that a statement reads or writes. -/
  | table (name : ObjectName)
  /-- A relation inside other syntax. -/
  | factor (f : TableFactor)
  /-- A relation with its joins inside other syntax. -/
  | source (t : TableWithJoins)

/-- A query: common table expressions, a body, and ordering, limits and the like. -/
structure Query where
  recursive : Bool
  ctes : List Cte
  body : Body
  rest : List Piece

/-- A common table expression. -/
structure Cte where
  label : TableAlias
  hint : String
  query : Query
  source : Option Ident

/-- The body of a query. -/
inductive Body
  | select (s : Select)
  /-- A query in parentheses. -/
  | query (q : Query)
  /-- A set operation with the spelling of its operator. -/
  | setOp (left : Body) (op : String) (right : Body)
  /-- Any other body: rows of values, a table, a statement that changes data. -/
  | other (pieces : List Piece)

/-- A select. -/
structure Select where
  fromFirst : Bool
  /-- What stands between the word `SELECT` and the projection. -/
  head : List Piece
  items : List Item
  /-- What stands between the projection and the relations. -/
  into : List Piece
  sources : List TableWithJoins
  /-- Filters, grouping and what follows them. -/
  rest : List Piece

/-- An item of a projection. -/
inductive Item
  | unnamed (e : Expr)
  | aliased (e : Expr) (label : Ident)
  | wildcard (options : List Piece)
  | tableWildcard (name : ObjectName) (options : List Piece)
  | exprWildcard (e : Expr) (options : List Piece)

/-- A relation of a `FROM` clause. -/
inductive TableFactor
  /-- A named table, or the rows of a function if the pieces after the name hold arguments. -/
  | table (name : ObjectName) (arguments : List Piece) (label : Option TableAlias)
      (hints : List Piece)
  | derived (lateral : Bool) (query : Query) (label : Option TableAlias) (sample : List Piece)
  | nested (inner : TableWithJoins) (label : Option TableAlias)
  /-- Any other relation; it binds no columns. -/
  | other (pieces : List Piece)

/-- A relation and the relations joined to it. -/
structure TableWithJoins where
  relation : TableFactor
  joins : List Join

/-- A join with a relation. -/
structure Join where
  isGlobal : Bool
  kind : JoinKind
  relation : TableFactor
  /-- The condition that an `ASOF` join matches rows by. -/
  matching : List Piece
  constraint : JoinConstraint

/-- How the rows of a join are matched. -/
inductive JoinConstraint
  | none
  | natural
  | on (e : Expr)
  | using (columns : List ObjectName)

end

instance : Inhabited Expr := ⟨.column []⟩
instance : Inhabited Body := ⟨.other []⟩
instance : Inhabited Query := ⟨⟨false, [], default, []⟩⟩
instance : Inhabited TableFactor := ⟨.other []⟩

/-- A statement. -/
inductive Statement
  | query (q : Query)
  /-- Any statement other than a query, with what it mentions. -/
  | command (pieces : List Piece)

/-- Whether the statement is a query. -/
def Statement.isQuery : Statement → Bool
  | .query _ => true
  | .command _ => false

/-- A statement as a row of pieces. -/
def Statement.pieces : Statement → List Piece
  | .query q => [.query q]
  | .command pieces => pieces

end AssetFlow.Sql
