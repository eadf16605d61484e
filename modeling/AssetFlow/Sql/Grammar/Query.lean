import AssetFlow.Sql.Grammar.Pipe

/-!
# Queries

Common table expressions, selects joined by set operations, and the clauses that order and limit
rows.

## Main definitions

- `Parser.queryBody`: selects joined by set operations.
- `Parser.query`: a whole query.
-/

namespace AssetFlow.Sql

namespace Parser

/-! ### Bodies -/

/-- A table read as a whole, after the word `TABLE`. The clause takes three tokens, whatever they
are. -/
def wholeTable : Parser (List Piece) := do
  let first ← next
  let second ← next
  let third ← next
  let word (t : LocatedToken) : Parser String :=
    match t.token with
    | .word v _ _ => return v
    | _ => failAt t
  let table ← word first
  if second.token == .symbol "." then
    return [.text ("TABLE " ++ table ++ "." ++ (← word third))]
  return [.text ("TABLE " ++ table)]

/-- A query body without set operations. -/
def bodyTerm (r : Rules) : Parser Body := do
  let d := (← read).dialect
  let k ← keywordAt 0
  if k == "SELECT" || (k == "FROM" && d.fromFirst) then return .select (← select r)
  else if ← symbol "(" then
    let q ← r.query
    expectSymbol ")"
    return .query q
  else if k == "VALUES" || k == "VALUE" then
    skip
    return .other (.text (k ++ " ") :: (← valueRows r d.emptyRows))
  else if ← keyword "TABLE" then return .other (← wholeTable)
  else failHere

/-- Bodies joined by the set operations `words`, whose right sides `right` reads. -/
def setOperations (words : List (String × Parser Body)) (first : Body) : Parser Body :=
  grow
    (fun left => do
      let k ← keywordAt 0
      match words.lookup k with
      | none => return none
      | some right =>
        skip
        let quantifier ← setQuantifier
        return some (.setOp left (k ++ quantifier) (← right)))
    first

/-- Bodies joined by intersections. -/
def intersections (r : Rules) : Parser Body := do
  setOperations [("INTERSECT", bodyTerm r)] (← bodyTerm r)

/-- Bodies joined by set operations, of which intersections bind most tightly. -/
def queryBody (r : Rules) : Parser Body := do
  setOperations
    [("INTERSECT", bodyTerm r), ("UNION", intersections r), ("EXCEPT", intersections r),
      ("MINUS", intersections r)]
    (← bodyTerm r)

/-! ### Common table expressions -/

/-- The query that a common table expression reads from, if one is named. -/
def cteSource : Parser (Option Ident) :=
  after ["FROM"] identifier

/-- A common table expression after its name and without the word `AS`, if it may be so and is. -/
def bareCte (r : Rules) (name : Ident) : Parser (Option Cte) := do
  if !(← rule Dialect.bareCtes) || (← keywordAt 0) == "AS" then return none
  match ← attempt (parenthesised r.query) with
  | some q => return some ⟨⟨false, name, []⟩, "", q, ← cteSource⟩
  | none => return none

/-- What is said about keeping the rows of a common table expression. -/
def materialization : Parser String := do
  if !(← rule Dialect.materializedCtes) then return ""
  if ← keyword "MATERIALIZED" then return "MATERIALIZED "
  flag ["NOT", "MATERIALIZED"] "NOT MATERIALIZED "

/-- A common table expression. -/
def cte (r : Rules) : Parser Cte := do
  let name ← identifier
  if let some c ← bareCte r name then return c
  let columns ← if (← keywordAt 0) == "AS" then pure [] else aliasColumns
  if !(← keyword "AS") then
    if !(← rule Dialect.bareCtes) then failHere
  let hint ← materialization
  let q ← parenthesised r.query
  return ⟨⟨false, name, columns⟩, hint, q, ← cteSource⟩

/-! ### Ordering and limits -/

/-- Expressions that fill the gaps of an ordering, if they are asked for. -/
def interpolation (r : Rules) : Parser (List Piece) := do
  if !(← onlyIf (← rule Dialect.orderFilling) (keyword "INTERPOLATE")) then return []
  if !(← symbol "(") then return [.text " INTERPOLATE"]
  let items ← listBefore ")" do
    let name ← identifier
    return Piece.text name.render :: (← exprClause r ["AS"])
  expectSymbol ")"
  return .text " INTERPOLATE (" :: separated ", " items ++ [.text ")"]

/-- The ordering, if one is given. -/
def orderBy (r : Rules) : Parser (List Piece) := do
  if !(← keywords ["ORDER", "BY"]) then return []
  if ← onlyIf (← rule Dialect.orderByAll) (keyword "ALL") then
    return [.text (" ORDER BY ALL" ++ (← orderOptions))]
  let items ← orderItems r
  return .text " ORDER BY " :: items ++ (← interpolation r)

/-- An offset after its word. -/
def offsetRows (r : Rules) : Parser (List Piece) := do
  let e ← r.expr 0
  let unit := match ← oneOf ["ROW", "ROWS"] with
    | some k => " " ++ k
    | none => ""
  return [.text " OFFSET ", .expr e, .text unit]

/-- The limit and the offset, if any are given. -/
def limits (r : Rules) : Parser (List Piece) := do
  let d := (← read).dialect
  let early ← after ["OFFSET"] (offsetRows r)
  if !(← keyword "LIMIT") then return early.getD []
  let limit ← if ← keyword "ALL" then pure none else some <$> r.expr 0
  if let some first := limit then
    if ← onlyIf (d.limitComma && early.isNone) (symbol ",") then
      return [.text " LIMIT ", .expr first, .text ", ", .expr (← r.expr 0)]
  let groups ← if d.limitBy then exprsClause r ["BY"] else pure []
  let offset ← match early with
    | some offset => pure offset
    | none => do pure ((← after ["OFFSET"] (offsetRows r)).getD [])
  let shown : List Piece := match limit with
    | some e => [.text " LIMIT ", .expr e]
    | none => []
  return shown ++ offset ++ groups

/-- The rows to fetch, if they are limited so. -/
def fetchRows : Parser (List Piece) := do
  if !(← keyword "FETCH") then return []
  let _ ← oneOf ["FIRST", "NEXT"]
  let quantity ← match ← oneOf ["ROW", "ROWS"] with
    | some _ => pure []
    | none => do
      let v ← literal
      let percent ← flag ["PERCENT"] " PERCENT"
      let _ ← oneOf ["ROW", "ROWS"]
      pure [.expr v, .text (percent ++ " ")]
  let extent ← if ← keyword "ONLY" then pure "ONLY"
    else if ← keywords ["WITH", "TIES"] then pure "WITH TIES"
    else pure "ONLY"
  return .text " FETCH FIRST " :: quantity ++ [.text ("ROWS " ++ extent)]

/-! ### Locks and formats -/

/-- A name in parentheses, if one is given. -/
def optionalRoot : Parser String := do
  if ← atSymbol "(" then return "('" ++ (← parenthesised literalText) ++ "')" else return ""

/-- Options after commas, each found in `options` by its words, as they are spelled in the end. -/
def commaOptions (options : List (List String × Parser String)) : Parser (List String) := do
  let found ← repeated do
    if !(← symbol ",") then return none
    for (words, rest) in options do
      if ← keywords words then
        return some [", " ++ " ".intercalate words ++ (← rest)]
    return some []
  return found.flatten

/-- The rows as a marked up text or a document. -/
def forDocument (word : String) (modes : List (String × Bool))
    (options : List (List String × Parser String)) : Parser String := do
  match ← oneOf (modes.map (·.1)) with
  | none => failUnplaced
  | some mode =>
    let root ← if (modes.lookup mode).getD false then optionalRoot else pure ""
    return " FOR " ++ word ++ " " ++ mode ++ root ++ String.join (← commaOptions options)

/-- The format in which rows are answered, after the word `FOR`, if one is named. -/
def forFormat : Parser (Option String) := do
  let plain : Parser String := return ""
  let base64 : Parser String := do
    expectKeyword "BASE64"
    return " BASE64"
  let root : Parser String := return "('" ++ (← parenthesised literalText) ++ "')"
  if ← keyword "XML" then
    return some (← forDocument "XML"
      [("RAW", true), ("AUTO", false), ("EXPLICIT", false), ("PATH", true)]
      [(["ELEMENTS"], plain), (["BINARY"], base64), (["ROOT"], root), (["TYPE"], plain)])
  if ← keyword "JSON" then
    return some (← forDocument "JSON" [("AUTO", false), ("PATH", false)]
      [(["ROOT"], root), (["INCLUDE_NULL_VALUES"], plain), (["WITHOUT_ARRAY_WRAPPER"], plain)])
  if ← keyword "BROWSE" then return some " FOR BROWSE"
  return none

/-- A lock on the rows, after the word `FOR`. -/
def rowLock : Parser String := do
  let kind ← expectOneOf ["UPDATE", "SHARE"]
  let of_ := match ← after ["OF"] objectName with
    | some name => " OF " ++ name.render
    | none => ""
  let wait ← if ← keyword "NOWAIT" then pure " NOWAIT"
    else flag ["SKIP", "LOCKED"] " SKIP LOCKED"
  return " FOR " ++ kind ++ of_ ++ wait

/-- Locks on the rows, and the format of the answer, which ends them. -/
def forClauses : Nat → Parser (List Piece)
  | 0 => return []
  | n + 1 => do
    if !(← keyword "FOR") then return []
    match ← forFormat with
    | some s => return [.text s]
    | none =>
      let lock ← rowLock
      return .text lock :: (← forClauses n)

/-- The output format, if one is named. -/
def formatClause : Parser (List Piece) := do
  if !(← onlyIf (← rule Dialect.formats) (keyword "FORMAT")) then return []
  if ← keyword "NULL" then return [.text " FORMAT NULL"]
  return [.text (" FORMAT " ++ (← identifier).render)]

/-! ### Whole queries -/

/-- The common table expressions of a query, and whether they may be recursive. -/
def withClause (r : Rules) : Parser (Bool × List Cte) := do
  if !(← keyword "WITH") then return (false, [])
  let isRecursive ← keyword "RECURSIVE"
  return (isRecursive, ← list (cte r))

/-- What follows the body of a query. -/
def queryRest (r : Rules) : Parser (List Piece) := do
  let order ← orderBy r
  let limit ← limits r
  let given ← settings r
  let fetch ← fetchRows
  let locks ← forClauses (← turns)
  let format ← formatClause
  let pipes ← pipeOperators r
  let extra := if given.isEmpty then [] else .text " " :: given
  return order ++ limit ++ extra ++ fetch ++ locks ++ format ++ pipes

/-- A query. -/
def query (r : Rules) : Parser Query := do
  let (isRecursive, ctes) ← withClause r
  if ["INSERT", "UPDATE", "DELETE", "MERGE"].contains (← keywordAt 0) then
    return ⟨isRecursive, ctes, .other (← r.change), []⟩
  let body ← queryBody r
  return ⟨isRecursive, ctes, body, ← queryRest r⟩

end Parser

end AssetFlow.Sql
