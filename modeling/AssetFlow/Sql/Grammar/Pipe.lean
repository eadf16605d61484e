import AssetFlow.Sql.Grammar.Select

/-!
# Pipe operators

Operators that transform the rows of a query one after another, each after the symbol `|>`.

## Main definitions

- `Parser.pipeOperators`: the pipe operators after a query.
- `Parser.setQuantifier`: which rows a set operation keeps.
- `Parser.assignments`: assignments of values to columns.
-/

namespace AssetFlow.Sql

namespace Parser

/-- The quantifier of a set operation. -/
def setQuantifier : Parser String := do
  if ← keywords ["DISTINCT", "BY", "NAME"] then return " DISTINCT BY NAME"
  if ← keywords ["BY", "NAME"] then return " BY NAME"
  if ← keyword "ALL" then return " ALL" ++ (← flag ["BY", "NAME"] " BY NAME")
  flag ["DISTINCT"] " DISTINCT"

/-- The target of an assignment. -/
def assignmentTarget : Parser String := do
  if ← atSymbol "(" then
    return "(" ++ commaSeparated ((← nameList).map ObjectName.render) ++ ")"
  return (← objectName).render

/-- Assignments of values to columns. -/
def assignments (r : Rules) : Parser (List Piece) := do
  return separated ", " (← list do
    let target ← assignmentTarget
    expectSymbol "="
    return [Piece.text (target ++ " = "), .expr (← r.expr 0)])

/-- Projection items as pieces. -/
def itemPieces (items : List Item) : List Piece :=
  separated ", " <| items.map fun i =>
    match i with
    | .unnamed e => [.expr e]
    | .aliased e label => [.expr e, .text (" AS " ++ label.render)]
    | .wildcard options => .text "*" :: options
    | .tableWildcard name options => .text (name.render ++ ".*") :: options
    | .exprWildcard e options => .expr e :: .text ".*" :: options

/-- Words up to the next pipe operator or the end; what stands between them is skipped. -/
def pipedNames : Parser String := do
  let names ← repeated do
    match ← peek with
    | .finish | .symbol "=" | .symbol ";" | .symbol "|>" => return none
    | .word value quote _ =>
      skip
      return some [Ident.render ⟨value, quote⟩]
    | _ =>
      skip
      return some []
  return commaSeparated names.flatten

/-- Expressions with aliases and directions. -/
def aggregated (r : Rules) : Parser (List Piece) := do
  return separated ", " (← list do
    let e ← r.expr 0
    let name ← aliasName (do return !(["ASC", "DESC", "GROUP"].contains (← keywordAt 0)))
    let direction ← oneOf ["ASC", "DESC"]
    return [Piece.expr e, .text (match name with | some i => " AS " ++ i.render | none => ""),
      .text (match direction with | some k => " " ++ k | none => "")])

/-- Queries in parentheses with commas between them. -/
def pipedQueries (r : Rules) : Parser (List Piece) := do
  return separated ", " (← list do
    return [Piece.text "(", .query (← parenthesised r.query), .text ")"])

/-- The alias of what a pipe operator yields, if it has one. -/
def pipedAlias : Parser (List Piece) := do
  match ← aliasName (return true) with
  | some i => return [.text (" AS " ++ i.render)]
  | none => return []

/-- Turning rows into columns in a pipe. -/
def pipedPivot (r : Rules) : Parser (List Piece) := do
  expectSymbol "("
  let aggregates ← list (pivotAggregate r)
  expectKeyword "FOR"
  let column ← objectName
  expectKeyword "IN"
  let values ← parenthesised (pivotValues r)
  expectSymbol ")"
  return .text "PIVOT(" :: separated ", " aggregates ++
    .text (" FOR " ++ column.render ++ " IN (") :: values ++ .text "))" :: (← pipedAlias)

/-- Turning columns into rows in a pipe. -/
def pipedUnpivot : Parser (List Piece) := do
  expectSymbol "("
  let value ← identifier
  expectKeyword "FOR"
  let name ← identifier
  expectKeyword "IN"
  let columns ← identifierList
  expectSymbol ")"
  return .text ("UNPIVOT(" ++ value.render ++ " FOR " ++ name.render ++ " IN (" ++
    commaSeparated (columns.map Ident.render) ++ "))") :: (← pipedAlias)

/-- A set operation in a pipe, after its word. -/
def pipedSetOperation (r : Rules) (word : String) : Parser (List Piece) := do
  let quantifier ← setQuantifier
  if word != "UNION" && !quantifier.startsWith " DISTINCT" then failUnplaced
  return .text (word ++ quantifier ++ " ") :: (← pipedQueries r)

/-- Grouping and aggregation in a pipe. -/
def pipedAggregation (r : Rules) : Parser (List Piece) := do
  let values ← if (← keywordAt 0) == "GROUP" then pure [] else
    pure (.text " " :: (← aggregated r))
  let groups ← match ← after ["GROUP", "BY"] (aggregated r) with
    | some pieces => pure (.text " GROUP BY " :: pieces)
    | none => pure []
  return .text "AGGREGATE" :: values ++ groups

/-- New names of columns in a pipe. -/
def pipedNaming : Parser (List Piece) := do
  let names ← list do
    let i ← identifier
    let _ ← keyword "AS"
    return i.render ++ " AS " ++ (← identifier).render
  return [.text ("RENAME " ++ commaSeparated names)]

/-- A join in a pipe. -/
def pipedJoin (r : Rules) : Parser (List Piece) := do
  let factor := tableFactor r
  match ← joins r factor (← turns) with
  | [j] => return [.source ⟨.other [], [j]⟩]
  | _ => failUnplaced

/-- Words that start the joins of a pipe. -/
def joinWords : List String :=
  ["JOIN", "INNER", "LEFT", "RIGHT", "FULL", "CROSS"]

/-- Words that start the operators of a pipe other than joins. -/
def pipeWords : List String :=
  ["SELECT", "EXTEND", "SET", "DROP", "AS", "WHERE", "LIMIT", "AGGREGATE", "ORDER", "TABLESAMPLE",
    "RENAME", "UNION", "INTERSECT", "EXCEPT", "CALL", "PIVOT", "UNPIVOT"]

/-- One pipe operator that is no join. -/
def pipeOperator (r : Rules) : Parser (List Piece) := do
  match ← expectOneOf pipeWords with
  | "SELECT" => return .text "SELECT " :: itemPieces (← list (item r))
  | "EXTEND" => return .text "EXTEND " :: itemPieces (← list (item r))
  | "SET" => return .text "SET " :: (← assignments r)
  | "DROP" => return [.text ("DROP " ++ (← pipedNames))]
  | "AS" => return [.text ("AS " ++ (← identifier).render)]
  | "WHERE" => return [.text "WHERE ", .expr (← r.expr 0)]
  | "LIMIT" =>
    let e ← r.expr 0
    return .text "LIMIT " :: .expr e :: (← exprClause r ["OFFSET"])
  | "AGGREGATE" => pipedAggregation r
  | "ORDER" =>
    expectKeyword "BY"
    return .text "ORDER BY " :: (← orderItems r)
  | "TABLESAMPLE" => sampleOf r "TABLESAMPLE"
  | "RENAME" => pipedNaming
  | "CALL" =>
    let call ← functionCall r (← objectName)
    return .text "CALL " :: .expr call :: (← pipedAlias)
  | "PIVOT" => pipedPivot r
  | "UNPIVOT" => pipedUnpivot
  | word => pipedSetOperation r word

/-- The pipe operators after a query. -/
def pipeOperators (r : Rules) : Parser (List Piece) := do
  if !(← rule Dialect.pipeOperators) then return []
  let operators ← repeated do
    if !(← symbol "|>") then return none
    if joinWords.contains (← keywordAt 0) then return some (.text " |>" :: (← pipedJoin r))
    return some (.text " |> " :: (← pipeOperator r))
  return operators.flatten

end Parser

end AssetFlow.Sql
