import AssetFlow.Sql.Tables
import AssetFlow.Sql.Schema

/-!
# Column lineage

For each output column of a query, the columns of physical tables that its value is computed from.
Common table expressions, derived tables, nested joins and set operations are followed to the
tables they read. A wildcard expands to the columns known of a relation; a relation of which none
are known yields one output column `*`.

## Main definitions

- `ColumnRef`, `Sources`: columns of tables, as an ascending list.
- `Relation`, `Scope`: what a column reference is resolved against.
- `Query.outputs`: the output columns of a query with their sources.
- `columnLineage`: the lineage of the first statement of a text.
-/

namespace AssetFlow.Sql

/-- A column of a physical table; the column `*` stands for columns that are not known. -/
structure ColumnRef where
  table : String
  column : String
  deriving DecidableEq, Repr, Inhabited

namespace ColumnRef

/-- The order by table, and by column within a table. -/
def before (a b : ColumnRef) : Bool :=
  decide (a.table < b.table) || (a.table == b.table && decide (a.column < b.column))

end ColumnRef

/-- Columns of physical tables in ascending order, each once. -/
abbrev Sources := List ColumnRef

namespace Sources

/-- Adds a column. -/
def add (r : ColumnRef) : Sources → Sources
  | [] => [r]
  | s :: rest =>
    if r.before s then r :: s :: rest
    else if r = s then s :: rest
    else s :: add r rest

/-- The columns of both. -/
def union (a b : Sources) : Sources :=
  b.foldl (fun acc r => add r acc) a

/-- The columns of all. -/
def unions (xs : List Sources) : Sources :=
  xs.foldl union []

end Sources

/-- An output column with the columns that its value is computed from. -/
structure Output where
  name : String
  sources : Sources
  deriving DecidableEq, Repr, Inhabited

namespace Output

/-- The output that stands for all columns of a table. -/
def wildcard (table : String) : Output :=
  ⟨"*", [⟨table, "*"⟩]⟩

/-- Whether the output stands for unknown columns. -/
def isWildcard (o : Output) : Bool :=
  o.name == "*"

end Output

/-- A relation in the scope of a select. -/
structure Relation where
  /-- The alias if there is one, else the name as written. -/
  binding : String
  /-- The physical table, if the relation is one. -/
  table : Option String
  /-- The columns, if they are known. -/
  columns : Option (List Output)
  deriving DecidableEq, Repr, Inhabited

/-- The part of a name after its last dot. -/
def lastPart (name : String) : String :=
  (name.splitOn ".").getLast?.getD name

namespace Relation

/-- Whether `qualifier` refers to the relation: it is the binding, or the last part of the name of
a table without an alias; the case of ASCII letters does not matter. -/
def answersTo (r : Relation) (qualifier : String) : Bool :=
  Text.equalsIgnoringAsciiCase r.binding qualifier ||
    match r.table with
    | some table =>
      table == r.binding && Text.equalsIgnoringAsciiCase (lastPart table) qualifier
    | none => false

/-- The known column of this name. -/
def known? (r : Relation) (column : String) : Option Output :=
  (r.columns.getD []).find? fun o => Text.equalsIgnoringAsciiCase o.name column

/-- Whether the relation is known to have the column. -/
def declares (r : Relation) (column : String) : Bool :=
  (r.known? column).isSome

/-- Whether the relation may have columns that are not known. -/
def isOpen (r : Relation) : Bool :=
  match r.columns with
  | some outputs => outputs.any Output.isWildcard
  | none => true

/-- The column read from the tables whose unknown columns the relation passes on. -/
def passedOn (outputs : List Output) (column : String) : Sources :=
  Sources.unions <| (outputs.filter Output.isWildcard).map fun o =>
    Sources.unions (o.sources.map fun s => [⟨s.table, column⟩])

/-- The sources of a column read through the relation. -/
def lookup (r : Relation) (column : String) : Sources :=
  let ofTable : Sources := match r.table with
    | some table => [⟨table, column⟩]
    | none => []
  match r.columns with
  | none => ofTable
  | some outputs =>
    match r.known? column with
    | some o => o.sources
    | none =>
      let passed := passedOn outputs column
      if passed.isEmpty then ofTable else passed

/-- The outputs of a wildcard over the relation. -/
def expand (r : Relation) : List Output :=
  match r.columns, r.table with
  | some outputs, _ => outputs
  | none, some table => [Output.wildcard table]
  | none, none => []

end Relation

/-- The relations of a `FROM` clause and the columns that its joins merge, in lower case. -/
structure Scope where
  relations : List Relation := []
  merged : List String := []
  deriving Repr, Inhabited

namespace Scope

/-- The relation that a qualifier refers to. -/
def find? (s : Scope) (qualifier : String) : Option Relation :=
  s.relations.find? (·.answersTo qualifier)

/-- The sources of a column with a qualifier. -/
def qualified (s : Scope) (qualifier column : String) : Sources :=
  match s.find? qualifier with
  | some r => r.lookup column
  | none => []

/-- The sources of a column without a qualifier. -/
def unqualified (s : Scope) (column : String) : Sources :=
  if s.merged.contains (Text.lower column) then
    Sources.unions <| (s.relations.filter fun r => r.declares column || r.isOpen).map
      (·.lookup column)
  else match s.relations.find? (·.declares column) with
    | some r => r.lookup column
    | none =>
      match s.relations with
      | [only] => only.lookup column
      | relations =>
        match relations.filter Relation.isOpen with
        | [single] => single.lookup column
        | _ => []

/-- Adds an output to the outputs of a wildcard; a merged column joins the output that has its
name. -/
def addOutput (merged : List String) (outputs : List Output) (o : Output) : List Output :=
  if merged.contains (Text.lower o.name) then
    let rec join : List Output → Option (List Output)
      | [] => none
      | p :: rest =>
        if Text.equalsIgnoringAsciiCase p.name o.name then
          some (⟨p.name, p.sources.union o.sources⟩ :: rest)
        else (join rest).map (p :: ·)
    (join outputs).getD (outputs ++ [o])
  else outputs ++ [o]

/-- The outputs of a wildcard without a qualifier; merged columns appear once. -/
def expandAll (s : Scope) : List Output :=
  (s.relations.flatMap Relation.expand).foldl (addOutput s.merged) []

/-- Adds a relation at the end. -/
def push (s : Scope) (r : Relation) : Scope :=
  { s with relations := s.relations ++ [r] }

end Scope

/-- The outputs of common table expressions in scope, by lower case name, latest first. -/
abbrev CteScope := List (String × List Output)

/-- Names the first outputs by the columns of an alias. -/
def renameOutputs : List Output → List AliasColumn → List Output
  | o :: outputs, c :: columns => ⟨c.name.value, o.sources⟩ :: renameOutputs outputs columns
  | outputs, _ => outputs

/-- Merges the sources of the right outputs into the left ones, place by place. -/
def mergeByPlace : List Output → List Output → List Output
  | l :: left, r :: right => ⟨l.name, l.sources.union r.sources⟩ :: mergeByPlace left right
  | left, _ => left

/-- Kinds of joins that merge the columns they are matched by. -/
def JoinKind.merges : JoinKind → Bool
  | .plain | .inner | .left | .leftOuter | .right | .rightOuter | .fullOuter => true
  | _ => false

/-- The columns that a join merges, in lower case. -/
def mergedColumns (kind : JoinKind) : JoinConstraint → List String
  | .using columns =>
    if kind.merges then columns.map fun c => Text.lower (lastPart c.path) else []
  | _ => []

/-- The relation of a named table. -/
def namedRelation (schema : Schema) (ctes : CteScope) (name : ObjectName)
    (label : Option TableAlias) : Relation :=
  let written := name.path
  let binding := match label with
    | some a => a.name.value
    | none => written
  match ctes.lookup (Text.lower written) with
  | some outputs => ⟨binding, none, some outputs⟩
  | none =>
    match schema.find? written with
    | some t =>
      ⟨binding, some t.name, some (t.columns.map fun c => ⟨c.name, [⟨t.name, c.name⟩]⟩)⟩
    | none => ⟨binding, some written, none⟩

/-- The name of an output that has no alias. -/
def Expr.outputName : Expr → String
  | .column path => match path.getLast? with
    | some i => i.value
    | none => ""
  | .nested inner => inner.outputName
  | .cast _ inner _ => inner.outputName
  | e => e.render

mutual

/-- The outputs of a query. -/
def Query.outputs (schema : Schema) (ctes : CteScope) : Query → List Output
  | ⟨_, definitions, body, _⟩ => body.outputs schema (bindCtes schema ctes definitions)
termination_by structural q => q

/-- The scope in which common table expressions are bound one after another. -/
def bindCtes (schema : Schema) (ctes : CteScope) : List Cte → CteScope
  | [] => ctes
  | c :: rest => bindCtes schema ((c.binding schema ctes) :: ctes) rest
termination_by structural cs => cs

/-- The lower case name of a common table expression and its outputs. -/
def Cte.binding (schema : Schema) (ctes : CteScope) : Cte → String × List Output
  | ⟨label, _, query, _⟩ =>
    (Text.lower label.name.value, renameOutputs (query.outputs schema ctes) label.columns)
termination_by structural c => c

/-- The outputs of a query body. Those of a set operation have the names of its left side. -/
def Body.outputs (schema : Schema) (ctes : CteScope) : Body → List Output
  | .select s => s.outputs schema ctes
  | .query q => q.outputs schema ctes
  | .setOp left _ right => mergeByPlace (left.outputs schema ctes) (right.outputs schema ctes)
  | .other _ => []
termination_by structural b => b

/-- The outputs of a select. -/
def Select.outputs (schema : Schema) (ctes : CteScope) : Select → List Output
  | ⟨_, _, items, _, sources, _⟩ =>
    itemOutputs schema ctes (sourceScope schema ctes {} sources) items
termination_by structural s => s

/-- The outputs of a projection. -/
def itemOutputs (schema : Schema) (ctes : CteScope) (scope : Scope) : List Item → List Output
  | [] => []
  | i :: rest => i.outputs schema ctes scope ++ itemOutputs schema ctes scope rest
termination_by structural is => is

/-- The outputs of a projection item. -/
def Item.outputs (schema : Schema) (ctes : CteScope) (scope : Scope) : Item → List Output
  | .unnamed e => [⟨e.outputName, e.sources schema ctes scope⟩]
  | .aliased e label => [⟨label.value, e.sources schema ctes scope⟩]
  | .wildcard _ => scope.expandAll
  | .tableWildcard name _ => match scope.find? name.path with
    | some r => r.expand
    | none => []
  | .exprWildcard _ _ => []
termination_by structural i => i

/-- The sources of an expression. Column references are resolved in the scope; a nested query
contributes the sources of its outputs. -/
def Expr.sources (schema : Schema) (ctes : CteScope) (scope : Scope) : Expr → Sources
  | .column [] => []
  | .column [i] => scope.unqualified i.value
  | .column (i :: j :: rest) =>
    let path := i :: j :: rest
    scope.qualified (".".intercalate (path.dropLast.map Ident.value))
      (((path.getLast?).map Ident.value).getD "")
  | .nested inner => inner.sources schema ctes scope
  | .cast _ inner _ => inner.sources schema ctes scope
  | .literal _ => []
  | .call _ rest => pieceSources schema ctes scope rest
  | .access root steps =>
    (root.sources schema ctes scope).union (pieceSources schema ctes scope steps)
  | .phrase pieces => pieceSources schema ctes scope pieces
termination_by structural e => e

/-- The sources of a row of pieces. -/
def pieceSources (schema : Schema) (ctes : CteScope) (scope : Scope) : List Piece → Sources
  | [] => []
  | p :: rest =>
    (p.sources schema ctes scope).union (pieceSources schema ctes scope rest)
termination_by structural ps => ps

/-- The sources of a piece. -/
def Piece.sources (schema : Schema) (ctes : CteScope) (scope : Scope) : Piece → Sources
  | .expr e => e.sources schema ctes scope
  | .query q => Sources.unions ((q.outputs schema ctes).map Output.sources)
  | .text _ | .table _ | .factor _ | .source _ => []
termination_by structural p => p

/-- The scope of a list of relations, added to a scope. -/
def sourceScope (schema : Schema) (ctes : CteScope) (scope : Scope) :
    List TableWithJoins → Scope
  | [] => scope
  | t :: rest => sourceScope schema ctes (t.addTo schema ctes scope) rest
termination_by structural ts => ts

/-- Adds a relation and the relations joined to it to a scope. -/
def TableWithJoins.addTo (schema : Schema) (ctes : CteScope) (scope : Scope) :
    TableWithJoins → Scope
  | ⟨relation, joins⟩ => joinScope schema ctes (relation.addTo schema ctes scope) joins
termination_by structural t => t

/-- Adds joined relations to a scope. -/
def joinScope (schema : Schema) (ctes : CteScope) (scope : Scope) : List Join → Scope
  | [] => scope
  | j :: rest => joinScope schema ctes (j.addTo schema ctes scope) rest
termination_by structural js => js

/-- Adds a joined relation to a scope. -/
def Join.addTo (schema : Schema) (ctes : CteScope) (scope : Scope) : Join → Scope
  | ⟨_, kind, relation, _, constraint⟩ =>
    let joined := relation.addTo schema ctes scope
    { joined with merged := joined.merged ++ mergedColumns kind constraint }
termination_by structural j => j

/-- Adds a relation to a scope. -/
def TableFactor.addTo (schema : Schema) (ctes : CteScope) (scope : Scope) : TableFactor → Scope
  | .table name _ label _ => scope.push (namedRelation schema ctes name label)
  | .derived _ query label _ =>
    let outputs := query.outputs schema ctes
    match label with
    | some a => scope.push ⟨a.name.value, none, some (renameOutputs outputs a.columns)⟩
    | none => scope.push ⟨"", none, some outputs⟩
  | .nested inner label =>
    let nested := inner.addTo schema ctes {}
    match label with
    | some a => scope.push ⟨a.name.value, none, some nested.expandAll⟩
    | none => ⟨scope.relations ++ nested.relations, scope.merged ++ nested.merged⟩
  | .other _ => scope
termination_by structural f => f

end

/-- Why SQL has no tables and no lineage. -/
inductive SqlError
  /-- The text is not in the language; the position is zero where none is known. -/
  | syntaxFault (line column : Nat)
  | empty
  | unknownDialect (assetType : String)
  deriving DecidableEq, Repr, Inhabited

/-- The message of an error, where `wording` says what is wrong with a text. -/
def SqlError.message (wording : String) : SqlError → String
  | .syntaxFault line column => s!"[S001] Cannot parse SQL at {line}:{column}: {wording}"
  | .empty => "[S002] No SQL statement to parse"
  | .unknownDialect assetType => s!"[S003] Asset type '{assetType}' has no SQL dialect"

/-- The fault that a syntax error is reported as. -/
def SqlError.ofSyntax : SyntaxError → SqlError
  | .unexpected p => .syntaxFault p.line p.column
  | .unplaced | .tooDeep => .syntaxFault 0 0

/-- All statements of a text, which must not be blank. -/
def readStatements (d : Dialect) (sql : String) : Except SqlError (List Statement) :=
  let body := Text.trim sql
  if body.isEmpty then .error .empty
  else (parseStatements d body).mapError SqlError.ofSyntax

/-- The first statement of a text. -/
def firstStatement (d : Dialect) (sql : String) : Except SqlError Statement := do
  match ← readStatements d sql with
  | s :: _ => return s
  | [] => throw .empty

/-- The tables that the first statement of a text mentions. -/
def referencedTables (d : Dialect) (sql : String) : Except SqlError (List String) := do
  return (← firstStatement d sql).tables

/-- The lineage of a statement; only queries have one. -/
def Statement.lineage (schema : Schema) : Statement → List Output
  | .query q => q.outputs schema []
  | .command _ => []

/-- The lineage of the first statement of a text. -/
def columnLineage (d : Dialect) (schema : Schema) (sql : String) :
    Except SqlError (List Output) := do
  return (← firstStatement d sql).lineage schema

end AssetFlow.Sql
