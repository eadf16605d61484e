import AssetFlow.Sql.Syntax
import AssetFlow.Sql.Quoted

/-!
# Canonical spelling

The text of a syntax tree in its canonical spelling: upper case keywords, single blanks, no
comments. An unaliased projection item is named by it.

## Main definitions

- `Expr.render`, `Query.render` and their companions.
- `escapeQuoted`: doubling of quotes that leaves quotes alone that are escaped already.
-/

namespace AssetFlow.Sql

/-- The characters with every quote `q` doubled, except pairs of quotes and quotes after a
backslash, which are taken as escaped; `prev` is the character just before. -/
def escapeQuoted (q : Char) (prev : Char) : List Char → List Char
  | [] => []
  | [c] => if c = q && prev != '\\' then [c, c] else [c]
  | c :: next :: rest =>
    if c = q then
      if prev = '\\' then c :: escapeQuoted q prev (next :: rest)
      else if next = q then c :: next :: escapeQuoted q c rest
      else c :: c :: escapeQuoted q c (next :: rest)
    else c :: escapeQuoted q c (next :: rest)

/-- `s` between two quotes `q`, with the quotes inside it escaped. -/
def inQuotes (q : Char) (s : String) : String :=
  String.ofList (q :: escapeQuoted q '\x00' s.toList ++ [q])

/-- Texts with a comma and a blank between them. -/
def commaSeparated (xs : List String) : String :=
  ", ".intercalate xs

/-- The spelling of an identifier. -/
def Ident.render (i : Ident) : String :=
  match i.quote with
  | none => i.value
  | some '[' => "[" ++ i.value ++ "]"
  | some q => inQuotes q i.value

/-- The spelling of a name. -/
def ObjectName.render (n : ObjectName) : String :=
  ".".intercalate (n.parts.map Ident.render)

/-- The spelling of an alias column. -/
def AliasColumn.render (c : AliasColumn) : String :=
  if c.type.isEmpty then c.name.render else c.name.render ++ " " ++ c.type

/-- The spelling of an alias, without the word `AS`. -/
def TableAlias.renderName (a : TableAlias) : String :=
  a.name.render ++
    (if a.columns.isEmpty then ""
     else " (" ++ commaSeparated (a.columns.map AliasColumn.render) ++ ")")

/-- The spelling of an alias. -/
def TableAlias.render (a : TableAlias) : String :=
  (if a.explicit then "AS " else "") ++ a.renderName

/-- The spelling of an optional alias after a relation. -/
def renderAlias : Option TableAlias → String
  | none => ""
  | some a => " " ++ a.render

/-- The spelling of a join up to the joined relation. -/
def JoinKind.render : JoinKind → String
  | .plain => "JOIN"
  | .inner => "INNER JOIN"
  | .left => "LEFT JOIN"
  | .leftOuter => "LEFT OUTER JOIN"
  | .right => "RIGHT JOIN"
  | .rightOuter => "RIGHT OUTER JOIN"
  | .fullOuter => "FULL JOIN"
  | .cross => "CROSS JOIN"
  | .semi => "SEMI JOIN"
  | .leftSemi => "LEFT SEMI JOIN"
  | .rightSemi => "RIGHT SEMI JOIN"
  | .anti => "ANTI JOIN"
  | .leftAnti => "LEFT ANTI JOIN"
  | .rightAnti => "RIGHT ANTI JOIN"
  | .crossApply => "CROSS APPLY"
  | .outerApply => "OUTER APPLY"
  | .asOf => "ASOF JOIN"
  | .straight => "STRAIGHT_JOIN"

/-- The spelling of a constraint before the kind of the join. -/
def JoinConstraint.renderBefore : JoinConstraint → String
  | .natural => "NATURAL "
  | _ => ""

/-- Texts of a list with a comma and a blank before each but the first. -/
def afterFirst (first : Bool) (s : String) : String :=
  if first then s else ", " ++ s

mutual

/-- The spelling of an expression. -/
def Expr.render : Expr → String
  | .column path => ".".intercalate (path.map Ident.render)
  | .nested inner => "(" ++ inner.render ++ ")"
  | .cast before inner after => before ++ inner.render ++ after
  | .literal spelling => spelling
  | .call name rest => name.render ++ renderPieces rest
  | .access root steps => root.render ++ renderPieces steps
  | .phrase pieces => renderPieces pieces
termination_by structural e => e

/-- The spelling of a row of pieces. -/
def renderPieces : List Piece → String
  | [] => ""
  | p :: rest => p.render ++ renderPieces rest
termination_by structural ps => ps

/-- The spelling of a piece. -/
def Piece.render : Piece → String
  | .text s => s
  | .expr e => e.render
  | .query q => q.render
  | .table name => name.render
  | .factor f => f.render
  | .source t => t.render
termination_by structural p => p

/-- The spelling of a query. -/
def Query.render : Query → String
  | ⟨isRecursive, ctes, body, rest⟩ =>
    (if ctes.isEmpty then ""
     else (if isRecursive then "WITH RECURSIVE " else "WITH ") ++ renderCtes true ctes ++ " ") ++
      body.render ++ renderPieces rest
termination_by structural q => q

/-- The spelling of common table expressions. -/
def renderCtes (first : Bool) : List Cte → String
  | [] => ""
  | c :: rest => afterFirst first c.render ++ renderCtes false rest
termination_by structural cs => cs

/-- The spelling of a common table expression. -/
def Cte.render : Cte → String
  | ⟨label, hint, query, source⟩ =>
    label.renderName ++ " AS " ++ hint ++ "(" ++ query.render ++ ")" ++
      (match source with
       | none => ""
       | some i => " FROM " ++ i.render)
termination_by structural c => c

/-- The spelling of a query body. -/
def Body.render : Body → String
  | .select s => s.render
  | .query q => "(" ++ q.render ++ ")"
  | .setOp left op right => left.render ++ " " ++ op ++ " " ++ right.render
  | .other pieces => renderPieces pieces
termination_by structural b => b

/-- The spelling of a select. -/
def Select.render : Select → String
  | ⟨fromFirst, head, items, into, sources, rest⟩ =>
    let relations := "FROM " ++ renderSources true sources
    let projection :=
      "SELECT" ++ renderPieces head ++
        (if items.isEmpty then "" else " " ++ renderItems true items) ++ renderPieces into
    (if fromFirst then
      (if items.isEmpty then relations else relations ++ " " ++ projection)
     else if sources.isEmpty then projection
     else projection ++ " " ++ relations) ++ renderPieces rest
termination_by structural s => s

/-- The spelling of a projection. -/
def renderItems (first : Bool) : List Item → String
  | [] => ""
  | i :: rest => afterFirst first i.render ++ renderItems false rest
termination_by structural is => is

/-- The spelling of a projection item. -/
def Item.render : Item → String
  | .unnamed e => e.render
  | .aliased e label => e.render ++ " AS " ++ label.render
  | .wildcard options => "*" ++ renderPieces options
  | .tableWildcard name options => name.render ++ ".*" ++ renderPieces options
  | .exprWildcard e options => e.render ++ ".*" ++ renderPieces options
termination_by structural i => i

/-- The spelling of a list of relations. -/
def renderSources (first : Bool) : List TableWithJoins → String
  | [] => ""
  | t :: rest => afterFirst first t.render ++ renderSources false rest
termination_by structural ts => ts

/-- The spelling of a relation with its joins. -/
def TableWithJoins.render : TableWithJoins → String
  | ⟨relation, joins⟩ => relation.render ++ renderJoins joins
termination_by structural t => t

/-- The spelling of a relation. -/
def TableFactor.render : TableFactor → String
  | .table name arguments label hints =>
    name.render ++ renderPieces arguments ++ renderAlias label ++ renderPieces hints
  | .derived lateral query label sample =>
    (if lateral then "LATERAL " else "") ++ "(" ++ query.render ++ ")" ++ renderAlias label ++
      renderPieces sample
  | .nested inner label => "(" ++ inner.render ++ ")" ++ renderAlias label
  | .other pieces => renderPieces pieces
termination_by structural f => f

/-- The spelling of joins. -/
def renderJoins : List Join → String
  | [] => ""
  | j :: rest => " " ++ j.render ++ renderJoins rest
termination_by structural js => js

/-- The spelling of a join. -/
def Join.render : Join → String
  | ⟨isGlobal, kind, relation, matching, constraint⟩ =>
    (if isGlobal then "GLOBAL " else "") ++ constraint.renderBefore ++ kind.render ++ " " ++
      relation.render ++ renderPieces matching ++ constraint.renderAfter
termination_by structural j => j

/-- The spelling of a constraint after the joined relation. -/
def JoinConstraint.renderAfter : JoinConstraint → String
  | .none | .natural => ""
  | .on e => " ON " ++ e.render
  | .using columns => " USING(" ++ commaSeparated (columns.map ObjectName.render) ++ ")"
termination_by structural c => c

end

end AssetFlow.Sql
