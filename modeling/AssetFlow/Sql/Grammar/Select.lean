import AssetFlow.Sql.Grammar.Relation

/-!
# Selects

Projections, filters, groupings, named windows, and what else a select is made of.

## Main definitions

- `Parser.item`: an item of a projection.
- `Parser.groupBy`, `Parser.connectBy`, `Parser.windowClauses`: clauses.
- `Parser.select`: one select.
-/

namespace AssetFlow.Sql

namespace Parser

/-! ### Projections -/

/-- The two sides of an equality whose left side is a plain name. -/
def equalsNamed? : Expr → Option (Ident × Expr)
  | .phrase [.expr (.column [name]), .text " = ", .expr value] => some (name, value)
  | _ => none

/-- Whether an expression is the plain word `FROM`. -/
def isFromWord : Expr → Bool
  | .column [i] => i.quote.isNone && Text.lower i.value == "from"
  | _ => false

/-- An item of a projection that is an expression. -/
def exprItem (r : Rules) (e : Expr) (root : Bool) : Parser Item := do
  let d := (← read).dialect
  if isFromWord e then failHere
  if d.equalsAlias then
    if let some (name, value) := equalsNamed? e then return .aliased value name
  if ← onlyIf d.expressionWildcards (symbols [".", "*"]) then
    return .exprWildcard e (← wildcardOptions r)
  let e := if root then .phrase [.text "CONNECT_BY_ROOT ", .expr e] else e
  match ← aliasName mayNameColumn with
  | some name => return .aliased e name
  | none => return .unnamed e

/-- An item of a projection. -/
def item (r : Rules) : Parser Item := do
  let root ← onlyIf (← rule Dialect.rootColumns) (keyword "CONNECT_BY_ROOT")
  match ← starred r with
  | .all => return .wildcard (← wildcardOptions r)
  | .allOf name => return .tableWildcard name (← wildcardOptions r)
  | .expr e => exprItem r e root

/-- A hint in the comment after the word `SELECT`, if there is one. -/
def optimizerHint : Parser (List Piece) := do
  if !(← rule Dialect.optimizerHints) then return []
  match (← peekNth 0).gap.comment with
  | some (mark, text) =>
    if text.startsWith "+" then
      return [.text (" " ++ mark ++ text ++ (if mark == "/*" then "*/" else ""))]
    return []
  | none => return []

/-- What a select builds its rows as. -/
def valueTable : Parser (List Piece) := do
  if !(← rule Dialect.valueTables) then return []
  for (words, shown) in [(["DISTINCT", "AS", "VALUE"], "DISTINCT AS VALUE"),
      (["DISTINCT", "AS", "STRUCT"], "DISTINCT AS STRUCT"), (["AS", "VALUE"], "AS VALUE"),
      (["ALL", "AS", "VALUE"], "AS VALUE"), (["AS", "STRUCT"], "AS STRUCT"),
      (["ALL", "AS", "STRUCT"], "AS STRUCT")] do
    if ← keywords words then return [.text (" " ++ shown)]
  if ← keyword "AS" then failHere
  return []

/-- `DISTINCT` or `ALL` and what it goes by. -/
def distinctness (r : Rules) : Parser (List Piece) := do
  let t ← peekNth 0
  if ← keyword "ALL" then
    if (← keywordAt 0) == "DISTINCT" then failAt t
    return [.text " ALL"]
  if !(← keyword "DISTINCT") then return []
  if (← keywordAt 0) == "ALL" then failAt t
  if !(← keyword "ON") then return [.text " DISTINCT"]
  let es ← parenthesised do
    if ← atSymbol ")" then return [] else list (r.expr 0)
  return .text " DISTINCT ON (" :: exprList es ++ [.text ")"]

/-- Words that modify a select, in the order of their spelling. -/
def modifierWords : List String :=
  ["HIGH_PRIORITY", "STRAIGHT_JOIN", "SQL_SMALL_RESULT", "SQL_BIG_RESULT", "SQL_BUFFER_RESULT",
    "SQL_NO_CACHE", "SQL_CALC_FOUND_ROWS"]

/-- Words that modify a select, and its distinctness, which may stand among them. -/
def selectModifiers (r : Rules) : Parser (List Piece × List Piece) := do
  let (words, unique) ← grow
    (fun (words, unique) => do
      let t ← peekNth 0
      let k := t.token.keyword
      if modifierWords.contains k then
        skip
        return some (k :: words, unique)
      else if ["ALL", "DISTINCT", "DISTINCTROW"].contains k then
        if !unique.isEmpty then failAt t
        if ← keyword "DISTINCTROW" then return some (words, [.text " DISTINCT"])
        return some (words, ← distinctness r)
      else return none)
    (([] : List String), ([] : List Piece))
  let shown := modifierWords.filter words.contains
  return ([.text (String.join (shown.map (" " ++ ·)))], unique)

/-- `TOP` and how many rows it keeps, if it is said. -/
def topRows (r : Rules) : Parser (List Piece) := do
  if !(← keyword "TOP") then return []
  let quantity ← if ← atSymbol "(" then
      pure [.text " TOP (", .expr (← parenthesised (r.expr 0)), .text ")"]
    else pure [.text (" TOP " ++ (← wholeNumber))]
  let percent ← flag ["PERCENT"] " PERCENT"
  let ties ← flag ["WITH", "TIES"] " WITH TIES"
  return quantity ++ [.text (percent ++ ties)]

/-- What stands between the word `SELECT` and the projection. -/
def selectHead (r : Rules) : Parser (List Piece) := do
  let d := (← read).dialect
  let hint ← optimizerHint
  let mode ← valueTable
  let (modifiers, early) ← if d.selectModifiers then selectModifiers r else pure ([], [])
  let topFirst ← if d.topBeforeDistinct then topRows r else pure []
  let unique ← if early.isEmpty then distinctness r else pure early
  let topLast ← if d.topBeforeDistinct then pure [] else topRows r
  return hint ++ mode ++ topFirst ++ unique ++ topLast ++ modifiers

/-- The target of a select that writes a table, if there is one. -/
def intoTable : Parser (List Piece) := do
  if !(← keyword "INTO") then return []
  let temporary := match ← oneOf ["TEMP", "TEMPORARY"] with
    | some _ => "TEMPORARY "
    | none => ""
  let unlogged ← flag ["UNLOGGED"] "UNLOGGED "
  let word ← flag ["TABLE"] "TABLE "
  return [.text (" INTO " ++ temporary ++ unlogged ++ word ++ (← objectName).render)]

/-! ### Clauses -/

/-- Expressions in parentheses, of which there may be none. -/
def groupingSet (r : Rules) : Parser (List Expr) :=
  parenthesised do
    if ← atSymbol ")" then return [] else list (r.expr 0)

/-- Expressions in parentheses, or a single one without. -/
def liftedGroupingSet (r : Rules) : Parser (List Expr) := do
  if ← atSymbol "(" then groupingSet r else return [← r.expr 0]

/-- The pieces of a grouping set. -/
def groupingSetPieces (es : List Expr) : List Piece :=
  .text "(" :: exprList es ++ [.text ")"]

/-- The pieces of a grouping set, which has no parentheses around a single expression. -/
def liftedSetPieces : List Expr → List Piece
  | [e] => [.expr e]
  | es => groupingSetPieces es

/-- A list of grouping sets in parentheses after the word `word`. -/
def groupingSets (word : String) (set : Parser (List Expr)) (shown : List Expr → List Piece) :
    Parser (List Piece) := do
  let sets ← parenthesised (list set)
  return .text (word ++ " (") :: separated ", " (sets.map shown) ++ [.text ")"]

/-- One item of a grouping. -/
def groupItem (r : Rules) : Parser (List Piece) := do
  if !(← rule Dialect.groupByExpressions) then return [.expr (← r.expr 0)]
  if ← keywords ["GROUPING", "SETS"] then
    groupingSets "GROUPING SETS" (groupingSet r) groupingSetPieces
  else if ← keyword "CUBE" then groupingSets "CUBE" (liftedGroupingSet r) liftedSetPieces
  else if ← keyword "ROLLUP" then groupingSets "ROLLUP" (liftedGroupingSet r) liftedSetPieces
  else if ← symbols ["(", ")"] then return [.text "()"]
  else return [.expr (← r.expr 0)]

/-- The grouping, if one is given. -/
def groupBy (r : Rules) : Parser (List Piece) := do
  if !(← keywords ["GROUP", "BY"]) then return []
  let items ← if ← keyword "ALL" then pure [.text "ALL"]
    else pure (separated ", " (← list (groupItem r)))
  let modifiers ← if ← rule Dialect.groupByModifiers then
      repeated (after ["WITH"] (expectOneOf ["ROLLUP", "CUBE", "TOTALS"]))
    else pure []
  let sets ← match ← after ["GROUPING", "SETS"]
      (groupingSets " GROUPING SETS" (liftedGroupingSet r) groupingSetPieces) with
    | some pieces => pure pieces
    | none => pure []
  return .text " GROUP BY " :: items ++
    .text (String.join (modifiers.map (" WITH " ++ ·))) :: sets

/-- A view of function rows beside a relation, after its words. -/
def lateralView (r : Rules) : Parser (List Piece) := do
  let outer ← flag ["OUTER"] " OUTER"
  let e ← r.expr 0
  let name ← objectName
  let columns ← list <| aliasName do
    return !(["WHERE", "GROUP", "CLUSTER", "HAVING", "LATERAL"].contains (← keywordAt 0))
  let columns := columns.filterMap id
  let shown := if columns.isEmpty then ""
    else " AS " ++ commaSeparated (columns.map Ident.render)
  return [.text (" LATERAL VIEW" ++ outer ++ " "), .expr e, .text (" " ++ name.render ++ shown)]

/-- Views of function rows beside a relation. -/
def lateralViews (r : Rules) : Parser (List Piece) := do
  return (← repeated (after ["LATERAL", "VIEW"] (lateralView r))).flatten

/-- How rows are connected with their parents, after the words `CONNECT BY`. -/
def connections (r : Rules) : Parser (List Piece) := do
  let noCycle ← flag ["NOCYCLE"] "NOCYCLE "
  let es ← withReader (fun source => { source with connecting := true }) (list (r.expr 0))
  return .text (" CONNECT BY " ++ noCycle) :: exprList es

/-- The clauses that connect rows with their parents, if any are given. -/
def connectBy (r : Rules) : Parser (List Piece) := do
  if !(← rule Dialect.connectBy) then return []
  let clauses ← repeated do
    let start ← exprClause r ["START", "WITH"]
    if !start.isEmpty then return some start
    after ["CONNECT", "BY"] (connections r)
  return clauses.flatten

/-- Definitions of windows by name. -/
def namedWindows (r : Rules) : Parser (List Piece) := do
  let windows ← list do
    let name ← identifier
    expectKeyword "AS"
    if ← symbol "(" then
      return Piece.text (name.render ++ " AS (") :: (← windowSpec r) ++ [.text ")"]
    if !(← rule Dialect.windowReferences) then failHere
    return [Piece.text (name.render ++ " AS " ++ (← identifier).render)]
  return .text " WINDOW " :: separated ", " windows

/-- Named windows and the filter on them, in either order. -/
def windowClauses (r : Rules) : Parser (List Piece) := do
  if ← keyword "WINDOW" then
    let windows ← namedWindows r
    return windows ++ (← exprClause r ["QUALIFY"])
  let qualify ← exprClause r ["QUALIFY"]
  if ← onlyIf (!qualify.isEmpty) (keyword "WINDOW") then return qualify ++ (← namedWindows r)
  return qualify

/-! ### Selects -/

/-- The relations of a select that starts with them, if it does. -/
def earlySources (r : Rules) : Parser (Option (List TableWithJoins)) := do
  if ← rule Dialect.fromFirst then after ["FROM"] (sources r) else return none

/-- The projection of a select. -/
def projection (r : Rules) : Parser (List Item) := do
  let d := (← read).dialect
  if d.emptyProjections && (← keywordAt 0) == "FROM" then return []
  listWith d.projectionTrailingCommas closesList (item r)

/-- A select. -/
def select (r : Rules) : Parser Select := do
  let d := (← read).dialect
  let before ← earlySources r
  if let some relations := before then
    if (← keywordAt 0) != "SELECT" then return ⟨true, [], [], [], relations, []⟩
  expectKeyword "SELECT"
  let head ← selectHead r
  let items ← projection r
  let exclude ← if d.selectExclude then excludedNames "EXCLUDE" else pure []
  let into ← intoTable
  let relations ← match before with
    | some relations => pure relations
    | none => do pure ((← after ["FROM"] (sources r)).getD [])
  let views ← lateralViews r
  let prewhere ← if d.prewhere then exprClause r ["PREWHERE"] else pure []
  let filter ← exprClause r ["WHERE"]
  let connected ← connectBy r
  let groups ← groupBy r
  let cluster ← exprsClause r ["CLUSTER", "BY"]
  let distribute ← exprsClause r ["DISTRIBUTE", "BY"]
  let sort ← orderClause r ["SORT", "BY"]
  let having ← exprClause r ["HAVING"]
  let windows ← windowClauses r
  return ⟨before.isSome, head, items, exclude ++ into, relations,
    views ++ prewhere ++ filter ++ connected ++ groups ++ cluster ++ distribute ++ sort ++
      having ++ windows⟩

end Parser

end AssetFlow.Sql
