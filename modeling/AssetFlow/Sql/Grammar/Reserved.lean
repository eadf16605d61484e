import AssetFlow.Sql.Grammar.Basic

/-!
# Reserved words

Words that cannot stand as names where no word `AS` precedes them, because they start a clause.
Some dialects decide by what follows the word.

## Main definitions

- `Parser.mayNameColumn`, `Parser.mayNameTable`: whether the next word may be an alias.
- `Parser.closesList`, `Parser.closesSources`: whether it ends a list after a comma.
-/

namespace AssetFlow.Sql

namespace Parser

/-- Words that cannot name a column without the word `AS`. -/
def reservedForColumnAlias : List String :=
  ["WITH", "EXPLAIN", "ANALYZE", "SELECT", "WHERE", "GROUP", "SORT", "HAVING", "ORDER", "TOP",
    "LATERAL", "VIEW", "LIMIT", "OFFSET", "FETCH", "UNION", "EXCEPT", "EXCLUDE", "INTERSECT",
    "MINUS", "CLUSTER", "DISTRIBUTE", "RETURNING", "VALUES", "FROM", "INTO", "END"]

/-- Words that cannot name a relation without the word `AS`. -/
def reservedForTableAlias : List String :=
  ["WITH", "EXPLAIN", "ANALYZE", "SELECT", "WHERE", "GROUP", "SORT", "HAVING", "ORDER", "PIVOT",
    "UNPIVOT", "TOP", "LATERAL", "VIEW", "LIMIT", "OFFSET", "FETCH", "UNION", "EXCEPT",
    "INTERSECT", "MINUS", "ON", "JOIN", "INNER", "CROSS", "FULL", "LEFT", "RIGHT", "NATURAL",
    "USING", "CLUSTER", "DISTRIBUTE", "GLOBAL", "ANTI", "SEMI", "RETURNING", "ASOF",
    "MATCH_CONDITION", "OUTER", "SET", "QUALIFY", "WINDOW", "END", "FOR", "PARTITION", "PREWHERE",
    "SETTINGS", "FORMAT", "START", "CONNECT", "MATCH_RECOGNIZE", "SAMPLE", "TABLESAMPLE", "FROM",
    "OPENJSON"]

/-- Words that start a hint or a join in the dialects that know them. -/
def reservedForHints : List String :=
  ["USE", "IGNORE", "FORCE", "STRAIGHT_JOIN"]

/-- Words that cannot name a relation where a comma may end the list of relations. -/
def reservedForRelation : List String :=
  ["ALL", "ALTER", "AND", "ANY", "AS", "BETWEEN", "BY", "CHECK", "COLUMN", "CONNECT", "CREATE",
    "CROSS", "CURRENT", "DELETE", "DISTINCT", "DROP", "ELSE", "EXISTS", "FOLLOWING", "FOR", "FROM",
    "FULL", "GRANT", "GROUP", "HAVING", "ILIKE", "IN", "INCREMENT", "INNER", "INSERT", "INTERSECT",
    "INTO", "IS", "JOIN", "LEFT", "LIKE", "MINUS", "NATURAL", "NOT", "NULL", "OF", "ON", "OR",
    "ORDER", "QUALIFY", "REGEXP", "REVOKE", "RIGHT", "RLIKE", "ROW", "ROWS", "SAMPLE", "SELECT",
    "SET", "SOME", "START", "TABLE", "TABLESAMPLE", "THEN", "TO", "TRIGGER", "UNION", "UNIQUE",
    "UPDATE", "USING", "VALUES", "WHEN", "WHENEVER", "WHERE", "WITH"]

/-- Whether the token `n` places ahead can say how many rows there are. -/
def countAt (n : Nat) : Parser Bool := do
  match (← peekNth n).token with
  | .number .. | .placeholder _ => return true
  | .string .single value => return value.isEmpty
  | .string (.dollar _) value => return value.isEmpty
  | t => return t.keyword == "NULL"

/-- Whether a `FETCH` that comes next limits the rows. -/
def fetchesRows : Parser Bool := do
  if ["FIRST", "NEXT"].contains (← keywordAt 1) then return true
  countAt 1

/-- Whether the next word, a plain one, may name a column without the word `AS`. -/
def mayNameColumn : Parser Bool := do
  let k ← keywordAt 0
  match (← read).dialect with
  | .snowflake =>
    if k == "EXCEPT" then return [.symbol ",", .finish].contains (← peekNth 1).token
    if k == "RETURNING" then return [.symbol ",", .finish].contains (← peekNth 1).token
    if k == "LIMIT" || k == "OFFSET" then return !(← countAt 1)
    if k == "FETCH" then return !(← fetchesRows)
    return !(["FROM", "GROUP", "HAVING", "INTERSECT", "INTO", "MINUS", "ORDER", "SELECT", "UNION",
      "WHERE", "WITH"].contains k)
  | .bigQuery =>
    return !(["WITH", "SELECT", "WHERE", "GROUP", "HAVING", "ORDER", "LATERAL", "LIMIT", "FETCH",
      "UNION", "EXCEPT", "INTERSECT", "FROM", "INTO", "END"].contains k)
  | .msSql => return !(reservedForColumnAlias.contains k || k == "IF" || k == "ELSE")
  | _ => return !reservedForColumnAlias.contains k

/-- Whether the next word, a plain one, may name a relation without the word `AS`. -/
def mayNameTable : Parser Bool := do
  let k ← keywordAt 0
  let d := (← read).dialect
  if d == .mySql then
    return !(reservedForTableAlias.contains k || reservedForHints.contains k)
  if d != .snowflake then return !reservedForTableAlias.contains k
  let last := [Token.symbol ";", .finish].contains (← peekNth 1).token
  if ["RETURNING", "INNER", "USING", "PIVOT", "UNPIVOT", "EXCEPT", "MATCH_RECOGNIZE"].contains k &&
      !last then
    return false
  if k == "LIMIT" then return !(← countAt 1)
  if k == "FETCH" then return !(← fetchesRows)
  if ["RIGHT", "LEFT", "SEMI", "ANTI"].contains k && ["JOIN", "OUTER"].contains (← keywordAt 1) then
    return false
  if k == "GLOBAL" && (← keywordAt 1) == "FULL" then return false
  return !(["WITH", "ORDER", "SELECT", "WHERE", "GROUP", "HAVING", "LATERAL", "UNION", "INTERSECT",
    "MINUS", "ON", "JOIN", "INNER", "CROSS", "FULL", "LEFT", "RIGHT", "NATURAL", "USING", "ASOF",
    "MATCH_CONDITION", "SET", "QUALIFY", "FOR", "START", "CONNECT", "SAMPLE", "TABLESAMPLE",
    "FROM"].contains k)

/-- Whether the next word ends a list that a comma may end. -/
def closesList : Parser Bool := do
  return !(← mayNameColumn)

/-- Whether the next word ends a list of relations that a comma may end. -/
def closesSources : Parser Bool := do
  let k ← keywordAt 0
  if k == "LIMIT" && (← countAt 1) then return true
  if k == "TABLE" && (← peekNth 1).token == .symbol "(" then return false
  return reservedForRelation.contains k

end Parser

end AssetFlow.Sql
