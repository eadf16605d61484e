import AssetFlow.Sql.Grammar.Operator

/-!
# Relations

Tables, table functions, derived tables, nested joins, and the joins between them.

## Main definitions

- `Parser.tableFactor`: one relation.
- `Parser.tableWithJoins`, `Parser.sources`: relations with their joins.
-/

namespace AssetFlow.Sql

namespace Parser

/-! ### Names and aliases -/

/-- The columns of an alias, if any are given. -/
def aliasColumns : Parser (List AliasColumn) := do
  if !(← atSymbol "(") then return []
  parenthesised <| list do
    let name ← identifier
    let type ← attempt typeName
    return AliasColumn.mk name (match type with | some t => t.spelling | none => "")

/-- The alias of a relation, if it has one. -/
def tableAlias : Parser (Option TableAlias) := do
  let explicit := (← keywordAt 0) == "AS"
  match ← aliasName mayNameTable with
  | some name => return some ⟨explicit, name, ← aliasColumns⟩
  | none => return none

/-- The alias of a relation in pieces. -/
def aliasPieces : Parser (List Piece) := do
  return [.text (renderAlias (← tableAlias))]

/-- A part of the name of a table, which may be computed. -/
def namePart (r : Rules) : Parser Ident := do
  let i ← identifier
  if i.quote.isNone && Text.lower i.value == "identifier" && (← rule Dialect.computedNames) then
    expectSymbol "("
    let args ← argumentsInside r
    return ⟨i.value ++ "(" ++ renderPieces args ++ ")", none⟩
  return i

/-! ### What follows a table -/

/-- How large a sample is. -/
def sampleQuantity (r : Rules) : Parser (List Piece) := do
  let value ← match ← attempt (r.expr 0) with
    | some e => pure e
    | none => do
      match (← next).token with
      | .word v _ _ => pure (Expr.literal v)
      | _ => failHere
  match ← oneOf ["ROWS", "PERCENT"] with
  | some unit => return [.expr value, .text (" " ++ unit)]
  | none => return [.expr value]

/-- The buckets that a sample is drawn from. -/
def sampleBucket (r : Rules) : Parser (List Piece) := do
  let part ← numberLiteral
  expectKeywords ["OUT", "OF"]
  let whole ← numberLiteral
  return [.text " (BUCKET ", .expr part, .text " OUT OF ", .expr whole] ++
    (← exprClause r ["ON"]) ++ [.text ")"]

/-- A sample of a relation after the word `word`. -/
def sampleOf (r : Rules) (word : String) : Parser (List Piece) := do
  let method := match ← oneOf ["BERNOULLI", "ROW", "SYSTEM", "BLOCK"] with
    | some m => " " ++ m
    | none => ""
  let (quantity, bucket) ← if ← symbol "(" then do
      let inside ← if ← keyword "BUCKET" then do pure ([], ← sampleBucket r)
        else do pure (.text " (" :: (← sampleQuantity r) ++ [.text ")"], [])
      expectSymbol ")"
      pure inside
    else do pure (.text " " :: (← sampleQuantity r), [])
  let seed ← match ← oneOf ["REPEATABLE", "SEED"] with
    | some k => pure [.text (" " ++ k ++ " ("), .expr (← parenthesised numberLiteral), .text ")"]
    | none => pure []
  return .text (word ++ method) :: quantity ++ seed ++ bucket ++ (← exprClause r ["OFFSET"])

/-- A sample of a relation, if one is asked for. -/
def tableSample (r : Rules) : Parser (List Piece) := do
  match ← oneOf ["TABLESAMPLE", "SAMPLE"] with
  | some word => return .text " " :: (← sampleOf r word)
  | none => return []

/-- The point in time at which a table is read, if one is given. -/
def tableVersion (r : Rules) : Parser (List Piece) := do
  if !(← rule Dialect.tableVersions) then return []
  let asked ← exprClause r ["FOR", "SYSTEM_TIME", "AS", "OF"]
  if !asked.isEmpty then return asked
  if ["AT", "BEFORE"].contains (← keywordAt 0) then
    let name ← tableNameOf (namePart r)
    return [.text " ", .expr (← functionCall r name)]
  let asked ← exprClause r ["TIMESTAMP", "AS", "OF"]
  if !asked.isEmpty then return asked
  match ← after ["VERSION", "AS", "OF"] numberLiteral with
  | some v => return [.text " VERSION AS OF ", .expr v]
  | none => return []

/-- A hint about the indexes of a table, if one comes next. -/
def indexHint : Parser (Option String) := do
  let some verb ← oneOf ["USE", "IGNORE", "FORCE"] | return none
  let kind ← expectOneOf ["INDEX", "KEY"]
  let purpose ← if ← keyword "FOR" then
      if ← keyword "JOIN" then pure " FOR JOIN"
      else if ← keywords ["ORDER", "BY"] then pure " FOR ORDER BY"
      else if ← keywords ["GROUP", "BY"] then pure " FOR GROUP BY"
      else failHere
    else pure ""
  let names ← parenthesised (listBefore ")" identifier)
  return some (" " ++ verb ++ " " ++ kind ++ purpose ++ " (" ++
    commaSeparated (names.map Ident.render) ++ ")")

/-- Hints about the indexes of a table. -/
def indexHints : Parser (List Piece) := do
  if !(← rule Dialect.indexHints) then return []
  let hints ← attempt (repeated indexHint)
  return [.text (String.join (hints.getD []))]

/-! ### Pivots -/

/-- An aggregate of a pivot, with its alias. -/
def pivotAggregate (r : Rules) : Parser (List Piece) := do
  let t ← next
  match t.token with
  | .word value _ _ =>
    let e ← functionCall r ⟨[⟨value, none⟩]⟩
    let name ← aliasName do
      return (← keywordAt 0) != "FOR" && (← mayNameColumn)
    return [.expr e, .text (match name with | some i => " AS " ++ i.render | none => "")]
  | _ => failHere

/-- Expressions with aliases after the word `AS`. -/
def aliasedExprs (r : Rules) : Parser (List Piece) := do
  return separated ", " (← list do
    let e ← r.expr 0
    match ← after ["AS"] identifier with
    | some name => return [Piece.expr e, .text (" AS " ++ name.render)]
    | none => return [.expr e])

/-- The values that a pivot makes columns of. -/
def pivotValues (r : Rules) : Parser (List Piece) := do
  if ← keyword "ANY" then return .text "ANY" :: (← orderClause r ["ORDER", "BY"])
  if ← atQuery then return [.query (← r.query)]
  aliasedExprs r

/-- Turning rows into columns, applied to a relation. -/
def pivoted (r : Rules) (inner : TableFactor) : Parser TableFactor := do
  let between := (← read).dialect.strength .between
  expectSymbol "("
  let aggregates ← list (pivotAggregate r)
  expectKeyword "FOR"
  let columns ← if ← atSymbol "(" then parenthesised (list (r.expr between))
    else pure [← r.expr between]
  expectKeyword "IN"
  let values ← parenthesised (pivotValues r)
  let onNull ← match ← after ["DEFAULT", "ON", "NULL"] (parenthesised (r.expr 0)) with
    | some e => pure [.text " DEFAULT ON NULL (", .expr e, .text ")"]
    | none => pure []
  expectSymbol ")"
  let shown := match columns with
    | [e] => [Piece.expr e]
    | es => .text "(" :: exprList es ++ [.text ")"]
  return .other <| .factor inner :: .text " PIVOT(" :: separated ", " aggregates ++
    .text " FOR " :: shown ++ .text " IN (" :: values ++ .text ")" :: onNull ++ .text ")" ::
    (← aliasPieces)

/-- Turning columns into rows, applied to a relation. -/
def unpivoted (r : Rules) (inner : TableFactor) : Parser TableFactor := do
  let nulls ← match ← oneOf ["INCLUDE", "EXCLUDE"] with
    | some k => do
      expectKeyword "NULLS"
      pure (" " ++ k ++ " NULLS ")
    | none => pure ""
  expectSymbol "("
  let value ← r.expr 0
  expectKeyword "FOR"
  let name ← identifier
  expectKeyword "IN"
  let columns ← parenthesised (aliasedExprs r)
  expectSymbol ")"
  return .other <| .factor inner :: .text (" UNPIVOT" ++ nulls ++ "(") :: .expr value ::
    .text (" FOR " ++ name.render ++ " IN (") :: columns ++ .text "))" :: (← aliasPieces)

/-- A relation with the pivots after it. -/
def withPivots (r : Rules) (t : TableFactor) : Parser TableFactor :=
  grow
    (fun t => do
      if ← keyword "PIVOT" then return some (← pivoted r t)
      if ← keyword "UNPIVOT" then return some (← unpivoted r t)
      return none)
    t

/-! ### Row patterns -/

/-- How often a part of a row pattern repeats, if it is said. -/
def patternQuantifier : Parser (Option String) := do
  match ← peek with
  | .symbol "*" | .symbol "+" =>
    let t ← next
    return some (match t.token with | .symbol s => s | _ => "")
  | .placeholder "?" | .symbol "?" =>
    skip
    return some "?"
  | .symbol "\x7b" =>
    skip
    let first ← if ← atSymbol "," then pure "" else wholeNumber
    let comma ← symbol ","
    let last ← if comma && !(first != "" && (← atSymbol "\x7d")) then wholeNumber else pure ""
    expectSymbol "\x7d"
    return some ("\x7b" ++ first ++ (if comma then "," else "") ++ last ++ "\x7d")
  | _ => return none

/-- A part of a row pattern, where `inner` reads a pattern in parentheses. -/
def patternPart (inner : Parser String) : Parser String := do
  let base ← match ← peek with
    | .symbol "^" => do
      skip
      pure "^"
    | .placeholder "$" => do
      skip
      pure "$"
    | .symbol "\x7b" => do
      skip
      expectSymbol "-"
      let i ← identifier
      expectSymbol "-"
      expectSymbol "\x7d"
      pure ("\x7b- " ++ i.render ++ " -\x7d")
    | .symbol "(" => do pure ("( " ++ (← parenthesised inner) ++ " )")
    | .word "PERMUTE" none _ => do
      skip
      pure ("PERMUTE(" ++ commaSeparated ((← identifierList).map Ident.render) ++ ")")
    | _ => do pure (← identifier).render
  return base ++ String.join (← repeated patternQuantifier)

/-- A row pattern in which parentheses nest at most `depth` times. -/
def rowPatternDeep : (depth : Nat) → Parser String
  | 0 => throw .tooDeep
  | depth + 1 => do
    let part := patternPart (rowPatternDeep depth)
    let first ← part
    let more ← repeated do
      if ← symbol "|" then return some (" | " ++ (← part))
      if ← atSymbol ")" then return none
      return some (" " ++ (← part))
    return first ++ String.join more

/-- How many rows a match of a row pattern yields, if it is said. -/
def rowsPerMatch : Parser String := do
  if ← keywords ["ONE", "ROW", "PER", "MATCH"] then return "ONE ROW PER MATCH "
  if !(← keywords ["ALL", "ROWS", "PER", "MATCH"]) then return ""
  for words in [["SHOW", "EMPTY", "MATCHES"], ["OMIT", "EMPTY", "MATCHES"],
      ["WITH", "UNMATCHED", "ROWS"]] do
    if ← keywords words then return "ALL ROWS PER MATCH " ++ " ".intercalate words ++ " "
  return "ALL ROWS PER MATCH "

/-- Where the search goes on after a match, if it is said. -/
def afterMatch : Parser String := do
  if !(← keywords ["AFTER", "MATCH", "SKIP"]) then return ""
  if ← keywords ["PAST", "LAST", "ROW"] then return "AFTER MATCH SKIP PAST LAST ROW "
  if ← keywords ["TO", "NEXT", "ROW"] then return "AFTER MATCH SKIP TO NEXT ROW "
  for word in ["FIRST", "LAST"] do
    if ← keywords ["TO", word] then
      return "AFTER MATCH SKIP TO " ++ word ++ " " ++ (← identifier).render ++ " "
  failHere

/-- The rows of a relation that match a pattern, if they are asked for. -/
def withRowPattern (r : Rules) (t : TableFactor) : Parser TableFactor := do
  if !(← onlyIf (← rule Dialect.rowPatterns) (keyword "MATCH_RECOGNIZE")) then return t
  expectSymbol "("
  let clause (words : List String) (p : Parser (List Piece)) : Parser (List Piece) := do
    match ← after words p with
    | some pieces => return .text (" ".intercalate words ++ " ") :: pieces ++ [.text " "]
    | none => return []
  let partition ← clause ["PARTITION", "BY"] (do return exprList (← list (r.expr 0)))
  let order ← clause ["ORDER", "BY"] (orderItems r)
  let measures ← clause ["MEASURES"] do
    return separated ", " (← list do
      let e ← r.expr 0
      let _ ← keyword "AS"
      return [Piece.expr e, .text (" AS " ++ (← identifier).render)])
  let rows ← rowsPerMatch
  let skips ← afterMatch
  expectKeyword "PATTERN"
  let pattern ← parenthesised (rowPatternDeep (← turns))
  expectKeyword "DEFINE"
  let symbols ← list do
    let name ← identifier
    expectKeyword "AS"
    return [Piece.text (name.render ++ " AS "), .expr (← r.expr 0)]
  expectSymbol ")"
  return .other <| .factor t :: .text " MATCH_RECOGNIZE(" :: partition ++ order ++ measures ++
    .text (rows ++ skips ++ "PATTERN (" ++ pattern ++ ") DEFINE ") :: separated ", " symbols ++
    .text ")" :: (← aliasPieces)

/-! ### Relations -/

/-- A query in parentheses whose opening one has been read. -/
def derived (r : Rules) (lateral : Bool) : Parser TableFactor := do
  let q ← r.query
  expectSymbol ")"
  let label ← tableAlias
  return .derived lateral q label (← tableSample r)

/-- Rows of values. If one of them has the word `ROW`, all are spelled with it. -/
def valueRows (r : Rules) (allowEmpty : Bool) : Parser (List Piece) := do
  let rows ← list do
    let explicit ← keyword "ROW"
    expectSymbol "("
    let es ← if allowEmpty && (← atSymbol ")") then pure [] else list (r.expr 0)
    expectSymbol ")"
    return (explicit, es)
  let start := if rows.any (·.1) then "ROW(" else "("
  return separated ", " (rows.map fun row => .text start :: exprList row.2 ++ [.text ")"])

/-- Settings, each a name and a value, if any are given. -/
def settings (r : Rules) : Parser (List Piece) := do
  if !(← onlyIf (← rule Dialect.settings) (keyword "SETTINGS")) then return []
  let items ← list do
    let name ← identifier
    expectSymbol "="
    return [Piece.text (name.render ++ " = "), .expr (← r.expr 0)]
  return .text "SETTINGS " :: separated ", " items

/-- The arguments of a function among the relations after the opening parenthesis, with the closing
one. Settings may end them. -/
def tableArguments (r : Rules) : Parser (List Piece) := do
  if ← symbol ")" then return []
  let trailing ← rule Dialect.trailingCommas
  let rec items : Nat → Parser (List (List Piece))
    | 0 => return []
    | n + 1 => do
      let given ← settings r
      if !given.isEmpty then return [given]
      let a ← argument r
      if ← listEnds trailing closesList then return [a]
      return a :: (← items n)
  let args ← items (← turns)
  expectSymbol ")"
  return separated ", " args

/-- A table, or the rows of a function. -/
def namedTable (r : Rules) : Parser TableFactor := do
  let d := (← read).dialect
  let name ← tableNameOf (namePart r)
  let path ← if d.bracketPaths && (← atSymbol "[") then documentPath r else pure []
  let partitions ← if ← onlyIf d.tablePartitions (keyword "PARTITION") then
      pure [.text (" PARTITION (" ++ commaSeparated ((← identifierList).map Ident.render) ++ ")")]
    else pure []
  let version ← tableVersion r
  let args ← if ← symbol "(" then pure (.text "(" :: (← tableArguments r) ++ [.text ")"])
    else pure []
  let ordinality ← flag ["WITH", "ORDINALITY"] " WITH ORDINALITY"
  let label ← tableAlias
  let indexes ← indexHints
  let hints ← if (← keywordAt 0) == "WITH" && (← peekNth 1).token == .symbol "(" then do
      skip
      pure (.text " WITH (" :: exprList (← parenthesised (list (r.expr 0))) ++ [.text ")"])
    else pure []
  let sample ← tableSample r
  let table := TableFactor.table name (path ++ partitions ++ args ++ [.text ordinality]) label
    (indexes ++ hints ++ version ++ sample)
  withRowPattern r (← withPivots r table)

/-- A part of the name of a place where files are kept, which may hold punctuation. -/
def stagePart : Parser Ident := do
  let texts ← repeated do
    let t ← peekNth 0
    let shown : Option String := match t.token with
      | .word value quote _ => some (Ident.render ⟨value, quote⟩)
      | .number text _ => some text
      | .symbol s => if ["@", "~", "%", "/", "+", "-", "=", ":"].contains s then some s else none
      | _ => none
    match shown with
    | some s =>
      skip
      return some (s, (← peekNth 0).spaced)
    | none => return none
  let rec upTo : List (String × Bool) → String
    | [] => ""
    | (s, spaced) :: rest => if spaced then s else s ++ upTo rest
  return ⟨upTo texts, none⟩

/-- Files in a place where they are kept. -/
def stagedFiles (r : Rules) : Parser TableFactor := do
  let first ← stagePart
  let more ← repeated do
    if ← symbol "." then return some (← stagePart) else return none
  let args ← if ← symbol "(" then pure (.text "(" :: (← tableArguments r) ++ [.text ")"])
    else pure []
  return .table ⟨first :: more⟩ args (← tableAlias) []

/-- The rows of an array. -/
def unnested (r : Rules) : Parser TableFactor := do
  let es ← parenthesised (list (r.expr 0))
  let ordinality ← flag ["WITH", "ORDINALITY"] " WITH ORDINALITY"
  let label ← aliasPieces
  let offset ← if ← keywords ["WITH", "OFFSET"] then
      match ← aliasName (do return !reservedForColumnAlias.contains (← keywordAt 0)) with
      | some i => pure (" WITH OFFSET AS " ++ i.render)
      | none => pure " WITH OFFSET"
    else pure ""
  return .other (.text "UNNEST(" :: exprList es ++ .text (")" ++ ordinality) :: label ++
    [.text offset])

/-- The alias that a relation in parentheses takes from outside them, if it has none inside. -/
def realiased (outer : TableAlias) : TableFactor → Parser TableFactor
  | .table name arguments none hints => return .table name arguments (some outer) hints
  | .derived lateral q none sample => return .derived lateral q (some outer) sample
  | .nested inner none => return .nested inner (some outer)
  | .other pieces => return .other (pieces ++ [.text (" " ++ outer.render)])
  | _ => failUnplaced

/-- The rows of a function that may refer to the relations before it. -/
def lateralFunction (r : Rules) : Parser TableFactor := do
  let name ← objectName
  expectSymbol "("
  let args ← if ← symbol ")" then pure [] else do
    let items ← list (argument r)
    expectSymbol ")"
    pure (separated ", " items)
  return .other (.text ("LATERAL " ++ name.render ++ "(") :: args ++ .text ")" :: (← aliasPieces))

/-! ### Documents as relations -/

/-- What is done with a missing or faulty value of a column, if it is said. -/
def faultHandling : Parser (Option (List Piece)) := do
  let action ← if ← keyword "NULL" then pure [.text " NULL"]
    else if ← keyword "ERROR" then pure [.text " ERROR"]
    else if ← keyword "DEFAULT" then pure [.text " DEFAULT ", .expr (← literal)]
    else return none
  expectKeyword "ON"
  if ← keyword "EMPTY" then return some (action ++ [.text " ON EMPTY"])
  expectKeyword "ERROR"
  return some (action ++ [.text " ON ERROR"])

/-- A column read from a document, where `nested` reads the columns of a nested document. -/
def documentColumn (nested : Parser (List Piece)) : Parser (List Piece) := do
  if ← keyword "NESTED" then
    let _ ← keyword "PATH"
    let path ← literal
    expectKeyword "COLUMNS"
    let columns ← parenthesised nested
    return [.text "NESTED PATH ", .expr path, .text " COLUMNS ("] ++ columns ++ [.text ")"]
  let name ← identifier
  if ← keyword "FOR" then
    expectKeyword "ORDINALITY"
    return [.text (name.render ++ " FOR ORDINALITY")]
  let type ← typeName
  let exists_ ← flag ["EXISTS"] " EXISTS"
  expectKeyword "PATH"
  let path ← literal
  let handling ← repeated faultHandling
  return .text (name.render ++ " " ++ type.spelling ++ exists_ ++ " PATH ") :: .expr path ::
    handling.flatten

/-- Columns read from a document, nested at most `depth` times. -/
def documentColumns : (depth : Nat) → Parser (List Piece)
  | 0 => throw .tooDeep
  | depth + 1 => do return separated ", " (← list (documentColumn (documentColumns depth)))

/-- The rows of a document by columns, after the opening parenthesis. -/
def documentTable (r : Rules) : Parser TableFactor := do
  let e ← r.expr 0
  expectSymbol ","
  let path ← literal
  expectKeyword "COLUMNS"
  let columns ← parenthesised (documentColumns (← turns))
  expectSymbol ")"
  return .other <| [.text "JSON_TABLE(", .expr e, .text ", ", .expr path, .text " COLUMNS("] ++
    columns ++ .text "))" :: (← aliasPieces)

/-- A column of the rows of an opened document. -/
def openedColumn : Parser String := do
  let name ← identifier
  let type ← typeName
  let path ← match ← peek with
    | .string .single value => do
      skip
      pure (" " ++ inQuotes '\'' value)
    | _ => pure ""
  let json ← if ← keyword "AS" then do
      expectKeyword "JSON"
      pure " AS JSON"
    else pure ""
  return name.render ++ " " ++ type.spelling ++ path ++ json

/-- The rows of an opened document, after the opening parenthesis. -/
def openedDocument (r : Rules) : Parser TableFactor := do
  let e ← r.expr 0
  let path ← if ← symbol "," then pure [.text ", ", .expr (← literal)] else pure []
  expectSymbol ")"
  let columns ← match ← after ["WITH"] (parenthesised (list openedColumn)) with
    | some columns => pure (" WITH (" ++ commaSeparated columns ++ ")")
    | none => pure ""
  return .other (.text "OPENJSON(" :: .expr e :: path ++ .text (")" ++ columns) ::
    (← aliasPieces))

/-- An expression with a name that the word `AS` precedes. -/
def namedExpr (r : Rules) : Parser (List Piece) := do
  let e ← r.expr 0
  expectKeyword "AS"
  return [.expr e, .text (" AS " ++ (← identifier).render)]

/-- A column of the rows of a marked up text. -/
def markupColumn (r : Rules) : Parser (List Piece) := do
  let name ← identifier
  if ← keywords ["FOR", "ORDINALITY"] then return [.text (name.render ++ " FOR ORDINALITY")]
  let type ← typeName
  let path ← exprClause r ["PATH"]
  let default_ ← exprClause r ["DEFAULT"]
  let notNull ← flag ["NOT", "NULL"] " NOT NULL"
  if notNull == "" then
    let _ ← keyword "NULL"
  return .text (name.render ++ " " ++ type.spelling) :: path ++ default_ ++ [.text notNull]

/-- The values that a marked up text is read from. -/
def markupPassing (r : Rules) : Parser (List Piece) := do
  match ← after ["PASSING"] (listWith false closesList do
      let byValue ← flag ["BY", "VALUE"] "BY VALUE "
      let e ← r.expr 0
      match ← after ["AS"] identifier with
      | some name => return [Piece.text byValue, .expr e, .text (" AS " ++ name.render)]
      | none => return [.text byValue, .expr e]) with
  | some items => return .text " PASSING " :: separated ", " items
  | none => return []

/-- The rows of a marked up text, after the opening parenthesis. -/
def markupTable (r : Rules) : Parser TableFactor := do
  let spaces ← match ← after ["XMLNAMESPACES"] (parenthesised (list (namedExpr r))) with
    | some items => do
      expectSymbol ","
      pure (.text "XMLNAMESPACES(" :: separated ", " items ++ [.text "), "])
    | none => pure []
  let row ← r.expr 0
  let passing ← markupPassing r
  expectKeyword "COLUMNS"
  let columns ← list (markupColumn r)
  expectSymbol ")"
  return .other <| .text "XMLTABLE(" :: spaces ++ .expr row :: passing ++ .text " COLUMNS " ::
    separated ", " columns ++ .text ")" :: (← aliasPieces)

/-- The rows of a view with dimensions and metrics, after the opening parenthesis. -/
def semanticView (r : Rules) : Parser TableFactor := do
  let name ← tableNameOf (namePart r)
  let rec clauses : Nat → List String → Parser (List Piece)
    | 0, _ => return []
    | n + 1, seen => do
      if ← atSymbol ")" then return []
      let t ← peekNth 0
      let some k ← oneOf ["DIMENSIONS", "METRICS", "FACTS", "WHERE"] | failAt t
      if seen.contains k then failUnplaced
      let items ← if k == "WHERE" then pure [[Piece.expr (← r.expr 0)]]
        else list (do return (← starred r).pieces)
      return .text (" " ++ k ++ " ") :: separated ", " items ++ (← clauses n (k :: seen))
  let inside ← clauses (← turns) []
  expectSymbol ")"
  return .other (.text ("SEMANTIC_VIEW(" ++ name.render) :: inside ++ .text ")" :: (← aliasPieces))

/-! ### Joins -/

/-- How the rows of a join are matched. -/
def joinConstraint (r : Rules) (natural : Bool) : Parser JoinConstraint := do
  if natural then return .natural
  if ← keyword "ON" then return .on (← r.expr 0)
  if ← keyword "USING" then return .using (← nameList)
  return .none

/-- The kind of a join to the left or to the right, after the word for its side. -/
def sideJoin (left : Bool) : Parser JoinKind := do
  match ← oneOf ["OUTER", "SEMI", "ANTI", "JOIN"] with
  | some "OUTER" =>
    expectKeyword "JOIN"
    return if left then .leftOuter else .rightOuter
  | some "SEMI" =>
    expectKeyword "JOIN"
    return if left then .leftSemi else .rightSemi
  | some "ANTI" =>
    expectKeyword "JOIN"
    return if left then .leftAnti else .rightAnti
  | some _ => return if left then .left else .right
  | none => failUnplaced

/-- The kind of an ordinary join, if one comes next. -/
def joinKind (natural : Bool) : Parser (Option JoinKind) := do
  let joining (kind : JoinKind) : Parser (Option JoinKind) := do
    expectKeyword "JOIN"
    return some kind
  if ← keyword "JOIN" then return some .plain
  if ← keyword "INNER" then return ← joining .inner
  if ← keyword "LEFT" then return some (← sideJoin true)
  if ← keyword "RIGHT" then return some (← sideJoin false)
  if ← keyword "ANTI" then return ← joining .anti
  if ← keyword "SEMI" then return ← joining .semi
  if ← keyword "FULL" then
    let _ ← keyword "OUTER"
    return ← joining .fullOuter
  if ← keyword "STRAIGHT_JOIN" then return some .straight
  if natural || (← keywordAt 0) == "OUTER" then failHere
  return none

/-- A cross join, after the word `CROSS`. -/
def crossJoin (r : Rules) (factor : Parser TableFactor) (isGlobal : Bool) : Parser Join := do
  let word ← expectOneOf ["JOIN", "APPLY"]
  let relation ← factor
  let constraint ← if word == "JOIN" && (← rule Dialect.crossJoinConstraints) then
      joinConstraint r false
    else pure .none
  return ⟨isGlobal, if word == "JOIN" then .cross else .crossApply, relation, [], constraint⟩

/-- A join by the closest row, after the word `ASOF`. -/
def asOfJoin (r : Rules) (factor : Parser TableFactor) (isGlobal : Bool) : Parser Join := do
  expectKeyword "JOIN"
  let relation ← factor
  expectKeyword "MATCH_CONDITION"
  let e ← parenthesised (r.expr 0)
  return ⟨isGlobal, .asOf, relation, [.text " MATCH_CONDITION (", .expr e, .text ")"],
    ← joinConstraint r false⟩

/-- A join, if one comes next. `factor` reads the joined relation, `inner` the joins that bind
more tightly to it where joins do not associate to the left. -/
def join (r : Rules) (factor : Parser TableFactor) (inner : Parser (List Join)) :
    Parser (Option Join) := do
  let isGlobal ← keyword "GLOBAL"
  if ← keyword "CROSS" then return some (← crossJoin r factor isGlobal)
  if ← keyword "OUTER" then
    expectKeyword "APPLY"
    return some ⟨isGlobal, .outerApply, ← factor, [], .none⟩
  if ← keyword "ASOF" then return some (← asOfJoin r factor isGlobal)
  let natural ← keyword "NATURAL"
  match ← joinKind natural with
  | none => return none
  | some kind =>
    let relation ← factor
    let nests := !(← rule Dialect.leftAssociativeJoins) &&
      ["JOIN", "INNER", "LEFT", "RIGHT", "FULL"].contains (← keywordAt 0)
    let relation ← if nests then pure (TableFactor.nested ⟨relation, ← inner⟩ none)
      else pure relation
    return some ⟨isGlobal, kind, relation, [], ← joinConstraint r natural⟩

/-- The joins after a relation; `depth` bounds how far joins nest to the right. -/
def joins (r : Rules) (factor : Parser TableFactor) : (depth : Nat) → Parser (List Join)
  | 0 => throw .tooDeep
  | depth + 1 => repeated (join r factor (joins r factor depth))

/-- A relation with its joins, where `factor` reads one relation. -/
def joined (r : Rules) (factor : Parser TableFactor) : Parser TableWithJoins := do
  let relation ← factor
  return ⟨relation, ← joins r factor (← turns)⟩

/-! ### All together -/

/-- A relation after its opening parenthesis. -/
def enclosedRelation (r : Rules) (factor : Parser TableFactor) : Parser TableFactor := do
  if let some t ← attempt (derived r false) then return ← withPivots r t
  let inner ← joined r factor
  let nested := match inner.relation with
    | .nested .. => true
    | _ => false
  if !inner.joins.isEmpty || nested then
    expectSymbol ")"
    return .nested inner (← tableAlias)
  if !(← rule Dialect.parenthesisedTables) then failHere
  expectSymbol ")"
  match ← tableAlias with
  | some outer => realiased outer inner.relation
  | none => return inner.relation

/-- Whether the keyword `k` and an opening parenthesis come next, which are taken. -/
def opensWith (k : String) : Parser Bool := do
  if (← keywordAt 0) == k && (← peekNth 1).token == .symbol "(" then
    skipMany 2
    return true
  return false

/-- A relation, where `factor` reads the relations inside parentheses. -/
def relation (r : Rules) (factor : Parser TableFactor) : Parser TableFactor := do
  let d := (← read).dialect
  if ← keyword "LATERAL" then
    if ← symbol "(" then derived r true else lateralFunction r
  else if ← keyword "TABLE" then
    let e ← parenthesised (r.expr 0)
    return .other (.text "TABLE(" :: .expr e :: .text ")" :: (← aliasPieces))
  else if ← symbol "(" then enclosedRelation r factor
  else if ← onlyIf d.bareValuesRelations (opensWith "VALUES") then
    unskip
    let rows ← valueRows r false
    return .derived false ⟨false, [], .other (.text "VALUES " :: rows), []⟩ (← tableAlias) []
  else if ← onlyIf d.unnestRelations (keyword "UNNEST") then unnested r
  else if ← opensWith "JSON_TABLE" then documentTable r
  else if ← opensWith "OPENJSON" then openedDocument r
  else if ← opensWith "XMLTABLE" then markupTable r
  else if ← onlyIf d.semanticViews (opensWith "SEMANTIC_VIEW") then semanticView r
  else if ← atSymbol "@" then stagedFiles r
  else namedTable r

/-- A relation in which parentheses nest at most `depth` times. -/
def tableFactorDeep (r : Rules) : (depth : Nat) → Parser TableFactor
  | 0 => throw .tooDeep
  | depth + 1 => relation r (tableFactorDeep r depth)

/-- A relation. -/
def tableFactor (r : Rules) : Parser TableFactor := do
  tableFactorDeep r (← turns)

/-- A relation with its joins. -/
def tableWithJoins (r : Rules) : Parser TableWithJoins :=
  joined r (tableFactor r)

/-- The relations of a `FROM` clause. -/
def sources (r : Rules) : Parser (List TableWithJoins) := do
  listWith (← rule Dialect.fromTrailingCommas) closesSources (tableWithJoins r)

end Parser

end AssetFlow.Sql
