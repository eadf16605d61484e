import AssetFlow.Sql.Grammar.Wildcard

/-!
# Functions

A function by name with its arguments, the clauses among them, and what may follow them: the order
within a group, a filter, the treatment of nulls, and a window.

## Main definitions

- `Parser.functionCall`: a function from its opening parenthesis on.
- `Parser.windowSpec`: the inside of a window.
- `Parser.intervalOf`: an interval after its word.
-/

namespace AssetFlow.Sql

namespace Parser

/-- How nulls are treated, if it is said. -/
def nullTreatment : Parser (Option String) := do
  match ← oneOf ["IGNORE", "RESPECT"] with
  | some k =>
    expectKeyword "NULLS"
    return some (k ++ " NULLS")
  | none => return none

/-! ### Intervals -/

/-- The pieces of an interval after its value, where `unit` is its first unit. -/
def intervalExtent (unit : Option String) : Parser String := do
  if unit == some "SECOND" then
    return " SECOND" ++ spaced (← optionalPrecision ", " wholeNumber)
  let first := match unit with
    | some u => " " ++ u
    | none => ""
  let p ← optionalLength
  if ← keyword "TO" then
    let last ← dateField
    let q ← if last == "SECOND" then optionalLength else pure ""
    return first ++ spaced p ++ " TO " ++ last ++ spaced q
  return first ++ spaced p
where
  /-- The text with a blank before it unless it is empty. -/
  spaced (s : String) : String := if s.isEmpty then "" else " " ++ s

/-- The rest of an `INTERVAL`. -/
def intervalOf (r : Rules) : Parser Expr := do
  let needsUnit ← rule Dialect.intervalNeedsUnit
  let value ← if needsUnit then r.expr 0 else r.operand
  let unit ← if intervalUnits.contains (← keywordAt 0) then some <$> dateField
    else if needsUnit then failHere
    else pure none
  return .phrase [.text "INTERVAL ", .expr value, .text (← intervalExtent unit)]

/-! ### Windows -/

/-- A bound of a window frame. -/
def frameBound (r : Rules) : Parser (List Piece) := do
  if ← keywords ["CURRENT", "ROW"] then return [.text "CURRENT ROW"]
  let rows ← if ← keyword "UNBOUNDED" then pure [.text "UNBOUNDED"]
    else match ← peek with
    | .string .single _ => pure [.expr (← intervalOf r)]
    | _ => pure [.expr (← r.expr 0)]
  return rows ++ [.text (" " ++ (← expectOneOf ["PRECEDING", "FOLLOWING"]))]

/-- A window frame. -/
def windowFrame (r : Rules) : Parser (List Piece) := do
  let units ← expectOneOf ["ROWS", "RANGE", "GROUPS"]
  if ← keyword "BETWEEN" then
    let first ← frameBound r
    expectKeyword "AND"
    let last ← frameBound r
    return .text (units ++ " BETWEEN ") :: first ++ .text " AND " :: last
  return .text (units ++ " ") :: (← frameBound r)

/-- The inside of a window up to its closing parenthesis, which is taken. It may start with the
name of another window, which is no keyword. -/
def windowSpec (r : Rules) : Parser (List Piece) := do
  let name ← match (← peek).plainName? with
    | some _ => pure [[Piece.text (← identifier).render]]
    | none => pure []
  let partition ← match ← after ["PARTITION", "BY"] (list (r.expr 0)) with
    | some es => pure [Piece.text "PARTITION BY " :: exprList es]
    | none => pure []
  let order ← match ← after ["ORDER", "BY"] (orderItems r) with
    | some items => pure [Piece.text "ORDER BY " :: items]
    | none => pure []
  let frame ← if ← symbol ")" then pure [] else do
    let f ← windowFrame r
    expectSymbol ")"
    pure [f]
  return separated " " (name ++ partition ++ order ++ frame)

/-! ### Arguments -/

/-- The operator between the name of an argument and its value. -/
def argumentOperator : Parser String := do
  if ← keyword "VALUE" then return "VALUE"
  let d := (← read).dialect
  let allowed := [("=>", d.arrowArguments), ("=", d.equalsArguments), (":=", d.assignmentArguments),
    (":", d.colonArguments)]
  match ← peek with
  | .symbol s =>
    if (allowed.lookup s).getD false then
      skip
      return s
    failHere
  | _ => failHere

/-- A function argument, with its name if it has one. -/
def argument (r : Rules) : Parser (List Piece) := do
  let named ← attempt do
    let name ← if ← rule Dialect.expressionArgumentNames then
        pure [.expr (← r.expr 0)]
      else pure [.text (← identifier).render]
    let op ← argumentOperator
    return name ++ .text (" " ++ op ++ " ") :: (Starred.pieces (← starred r))
  if let some pieces := named then return pieces
  match ← starred r with
  | .all =>
    let options ← if ← rule Dialect.wildcardExclude then wildcardOptions r else pure []
    return .text "*" :: options
  | s => return s.pieces

/-- Arguments between parentheses, whose opening one is taken. -/
def argumentsInside (r : Rules) : Parser (List Piece) := do
  let args ← listBefore ")" (argument r)
  expectSymbol ")"
  return separated ", " args

/-- What is done with absent values, if it is said. -/
def absenceClause : Parser (List (List Piece)) := do
  if ← keywords ["ABSENT", "ON", "NULL"] then return [[.text "ABSENT ON NULL"]]
  if ← keywords ["NULL", "ON", "NULL"] then return [[.text "NULL ON NULL"]]
  return []

/-- The type of the answer, if it is given. -/
def returningClause : Parser (List (List Piece)) := do
  if ← keyword "RETURNING" then return [[.text ("RETURNING " ++ (← typeName).spelling)]]
  return []

/-- Styles of the string literals that may fill in for what a long text leaves out. -/
def fillerStyles : StringStyle → Bool
  | .single | .escaped | .unicode | .national | .hex | .delimited .. | .nationalDelimited .. => true
  | _ => false

/-- What happens to a text that is too long, if it is said. -/
def overflowClause (r : Rules) : Parser (List (List Piece)) := do
  if !(← keywords ["ON", "OVERFLOW"]) then return []
  if ← keyword "ERROR" then return [[.text "ON OVERFLOW ERROR"]]
  expectKeyword "TRUNCATE"
  let filler ← match ← peek with
    | .string style _ =>
      if fillerStyles style then pure [.text " ", .expr (← r.expr 0)] else failHere
    | t => if ["WITH", "WITHOUT"].contains t.keyword then pure [] else failHere
  let count ← expectOneOf ["WITH", "WITHOUT"]
  expectKeyword "COUNT"
  return [.text "ON OVERFLOW TRUNCATE" :: filler ++ [.text (" " ++ count ++ " COUNT")]]

/-- An expression after a keyword among the arguments, if it is given. -/
def argumentClause (word : String) (p : Parser Expr) : Parser (List (List Piece)) := do
  if ← keyword word then return [[.text (word ++ " "), .expr (← p)]]
  return []

/-- Clauses after the arguments of a function, and whether one of them treats nulls. -/
def argumentClauses (r : Rules) : Parser (List (List Piece) × Bool) := do
  let d := (← read).dialect
  let nulls ← if d.argumentNullTreatment then nullTreatment else pure none
  let order ← match ← after ["ORDER", "BY"] (orderItems r) with
    | some items => pure [.text "ORDER BY " :: items]
    | none => pure []
  let limit ← argumentClause "LIMIT" (r.expr 0)
  let having ← if ← onlyIf d.boundArguments (keyword "HAVING") then do
      let k ← expectOneOf ["MIN", "MAX"]
      pure [[.text ("HAVING " ++ k ++ " "), .expr (← r.expr 0)]]
    else pure []
  let separator ← if d.argumentSeparators then argumentClause "SEPARATOR" literal else pure []
  let overflow ← overflowClause r
  let absence ← absenceClause
  let returning ← returningClause
  let treatment : List (List Piece) := match nulls with
    | some s => [[.text s]]
    | none => []
  return (treatment ++ order ++ limit ++ having ++ separator ++ overflow ++ absence ++ returning,
    nulls.isSome)

/-- The arguments of a function after the opening parenthesis, with the closing one; the pieces
have no parentheses. The answer says whether nulls are treated among them. -/
def arguments (r : Rules) : Parser (List Piece × Bool) := do
  let early := (← absenceClause) ++ (← returningClause)
  if ← symbol ")" then return (separated " " early, false)
  let start ← peekNth 0
  let all ← keyword "ALL"
  let distinct ← keyword "DISTINCT"
  if all && distinct then throw (.unexpected start.start)
  let args ← list (argument r)
  let (late, treated) ← argumentClauses r
  expectSymbol ")"
  let quantifier := if all then "ALL " else if distinct then "DISTINCT " else ""
  return (.text quantifier :: separated " " (separated ", " args :: early ++ late), treated)

/-! ### Calls -/

/-- The filter on the rows of an aggregate, if it is given. Its words are taken one by one, also
where the rest is missing. -/
def aggregateFilter (r : Rules) : Parser (List Piece) := do
  if !(← rule Dialect.aggregateFilters) then return []
  if !(← keyword "FILTER") then return []
  if !(← symbol "(") then return []
  if !(← keyword "WHERE") then return []
  let e ← r.expr 0
  expectSymbol ")"
  return [.text " FILTER (WHERE ", .expr e, .text ")"]

/-- The window of a function, if it is given. -/
def overClause (r : Rules) : Parser (List Piece) := do
  if !(← keyword "OVER") then return []
  if ← symbol "(" then return .text " OVER (" :: (← windowSpec r) ++ [.text ")"]
  return [.text (" OVER " ++ (← identifier).render)]

/-- A function named `name`, from its opening parenthesis on. -/
def functionCall (r : Rules) (name : ObjectName) : Parser Expr := do
  expectSymbol "("
  let d := (← read).dialect
  if d.queryArguments && (← atQuery) then
    let q ← r.query
    expectSymbol ")"
    return .call name [.text "(", .query q, .text ")"]
  let (first, treated) ← arguments r
  let (args, treated) ← if ← onlyIf d.parametricCalls (symbol "(") then do
      let (second, treated) ← arguments r
      pure (first ++ .text ")(" :: second, treated)
    else pure (first, treated)
  let within ← match ← after ["WITHIN", "GROUP"] (parenthesised do
      expectKeywords ["ORDER", "BY"]
      orderItems r) with
    | some order => pure (.text " WITHIN GROUP (ORDER BY " :: order ++ [.text ")"])
    | none => pure []
  let filter ← aggregateFilter r
  let nulls ← if treated then pure none else nullTreatment
  let treatment : List Piece := match nulls with
    | some s => [.text (" " ++ s)]
    | none => []
  return .call name <| .text "(" :: args ++ .text ")" :: within ++ filter ++ treatment ++
    (← overClause r)

end Parser

end AssetFlow.Sql
