import AssetFlow.Sql.Grammar.Column

/-!
# Statements that create things

Tables, views, macros, indexes, types and the like. Some kinds that mention nothing of interest
are read up to the end of the statement without looking inside.

## Main definitions

- `Parser.toEnd`: everything up to the end of the statement.
- `Parser.createOf`: the rest of a `CREATE`.
-/

namespace AssetFlow.Sql

namespace Parser

/-- Everything up to the end of the statement. -/
def toEnd : Parser (List Piece) := do
  let _ ← repeated do
    match ← peek with
    | .finish | .symbol ";" => return none
    | _ =>
      skip
      return some ()
  return []

/-- The computers on which a definition holds, if they are named. -/
def onCluster : Parser Unit := do
  if ← keywords ["ON", "CLUSTER"] then
    let _ ← identifier

/-! ### Tables -/

/-- The table that a new one is like, if one is named. -/
def likeTable : Parser Unit := do
  let enclosed := (← rule Dialect.parenthesisedLike) && (← atSymbol "(") &&
    (← keywordAt 1) == "LIKE"
  if enclosed then
    skipMany 2
    let _ ← tableName
    if (← oneOf ["INCLUDING", "EXCLUDING"]).isSome then expectKeyword "DEFAULTS"
    expectSymbol ")"
  else if (← oneOf ["LIKE", "ILIKE"]).isSome then
    let _ ← tableName

/-- The columns by which the files of a table are divided, and where and how they are kept. -/
def fileLayout (r : Rules) : Parser (List Piece) := do
  let divided ← match ← after ["PARTITIONED", "BY"] (parenthesised (list (columnDefinition r))) with
    | some columns => pure columns.flatten
    | none => pure []
  if ← keywords ["CLUSTERED", "BY"] then
    let _ ← identifierList
    if ← keywords ["SORTED", "BY"] then
      let _ ← parenthesised (orderItems r)
    expectKeyword "INTO"
    let _ ← wholeNumber
    expectKeyword "BUCKETS"
  let kept ← repeated do
    if ← keyword "LOCATION" then
      let _ ← literalText
      return some []
    if ← keywords ["STORED", "AS"] then
      let _ ← identifier
      return some []
    optionsOf r ["WITH", "SERDEPROPERTIES"]
  return divided ++ kept.flatten

/-- Words of table options that have a value. -/
def valuedTableOptions : List (List String) :=
  [["DEFAULT", "CHARSET"], ["CHARSET"], ["DEFAULT", "CHARACTER", "SET"], ["CHARACTER", "SET"],
    ["DEFAULT", "COLLATE"], ["COLLATE"], ["DATA", "DIRECTORY"], ["INDEX", "DIRECTORY"],
    ["KEY_BLOCK_SIZE"], ["ROW_FORMAT"], ["PACK_KEYS"], ["STATS_AUTO_RECALC"],
    ["STATS_PERSISTENT"], ["STATS_SAMPLE_PAGES"], ["DELAY_KEY_WRITE"], ["COMPRESSION"],
    ["ENCRYPTION"], ["MAX_ROWS"], ["MIN_ROWS"], ["AUTOEXTEND_SIZE"], ["AVG_ROW_LENGTH"],
    ["CHECKSUM"], ["CONNECTION"], ["ENGINE_ATTRIBUTE"], ["PASSWORD"],
    ["SECONDARY_ENGINE_ATTRIBUTE"], ["INSERT_METHOD"], ["AUTO_INCREMENT"]]

/-- The value of a table option. -/
def tableOptionValue : Parser Unit := do
  let _ ← symbol "="
  if (← attempt literal).isNone then
    let _ ← identifier

/-- The engine of a table. -/
def tableEngine : Parser Unit := do
  let _ ← symbol "="
  let t ← next
  if !t.token.isWord then failAt t
  let _ ← optionalList false identifier

/-- The comment of a table. -/
def tableComment : Parser Unit := do
  let _ ← symbol "="
  let t ← next
  match t.token with
  | .string .single _ => return ()
  | _ => failAt t

/-- An option of a table, if one comes next; a comma may follow it. -/
def tableOption : Parser (Option Unit) := do
  let found ← choose <|
    [(["START", "TRANSACTION"], return ()), (["COMMENT"], tableComment),
      (["ENGINE"], tableEngine)] ++
    valuedTableOptions.map fun words => (words, tableOptionValue)
  if found.isSome then
    let _ ← symbol ","
  return found

/-- How a table is kept and divided. -/
def tableConfiguration (r : Rules) : Parser (List Piece) := do
  let d := (← read).dialect
  if ← keyword "INHERITS" then
    let _ ← nameList
  let given ← optionsOf r ["WITH"]
  let properties ← optionsOf r ["TBLPROPERTIES"]
  let partition ← if d.partitionedTables then exprClause r ["PARTITION", "BY"] else pure []
  let cluster ← if d.clusteredTables then exprsClause r ["CLUSTER", "BY"] else pure []
  let options ← if d.clusteredTables then optionsOf r ["OPTIONS"] else pure none
  if given.isNone && properties.isNone && options.isNone then
    let _ ← repeated tableOption
  return given.getD [] ++ properties.getD [] ++ partition ++ cluster ++ options.getD []

/-- The keys by which a table is stored. -/
def storageKey (r : Rules) : Parser (List Piece) := do
  if !(← rule Dialect.storageKeys) then return []
  let primary ← exprClause r ["PRIMARY", "KEY"]
  if !(← keywords ["ORDER", "BY"]) then return primary
  if ← symbol "(" then
    let es ← listBefore ")" (r.expr 0)
    expectSymbol ")"
    return primary ++ exprList es
  return primary ++ [.expr (← r.expr 0)]

/-- What becomes of the rows of a temporary table, if it is said. -/
def onCommit : Parser Unit := do
  if ← keywords ["ON", "COMMIT"] then
    for words in [["DELETE", "ROWS"], ["PRESERVE", "ROWS"], ["DROP"]] do
      if ← keywords words then return
    failUnplaced

/-- The query that fills a new table, if there is one. -/
def fillingQuery (r : Rules) : Parser (List Piece) := do
  if ← keyword "AS" then return [.query (← r.query)]
  if (← rule Dialect.createFromQuery) && (← keywordAt 0) == "SELECT" then
    return [.query (← r.query)]
  return []

/-- A table whose properties follow in a fixed order, after its name. -/
def orderedTable (r : Rules) : Parser (List Piece) := do
  if ← keywords ["PARTITION", "OF"] then
    let _ ← tableName
  onCluster
  likeTable
  if ← keyword "CLONE" then
    let _ ← attempt tableName
  let elements ← tableElements r
  allow ["WITHOUT", "ROWID"]
  let files ← fileLayout r
  let configuration ← tableConfiguration r
  let keys ← storageKey r
  onCommit
  allow ["STRICT"]
  return elements ++ files ++ configuration ++ keys ++ (← fillingQuery r)

/-- Words of table properties that have a value after an equals sign. -/
def assignedTableProperties : List String :=
  ["ENABLE_SCHEMA_EVOLUTION", "CHANGE_TRACKING", "DATA_RETENTION_TIME_IN_DAYS",
    "MAX_DATA_EXTENSION_TIME_IN_DAYS", "DEFAULT_DDL_COLLATION", "EXTERNAL_VOLUME", "CATALOG",
    "BASE_LOCATION", "CATALOG_SYNC", "STORAGE_SERIALIZATION_POLICY", "TARGET_LAG", "WAREHOUSE",
    "REFRESH_MODE", "INITIALIZE"]

/-- One property of a table whose properties come in any order, if one comes next. The flag of the
answer says whether the property tells what the rows of the table are. -/
def tableProperty (r : Rules) : Parser (Option (Bool × List Piece)) := do
  let t ← peekNth 0
  match t.token with
  | .finish | .symbol ";" => return none
  | .symbol "(" => return some (true, ← tableElements r)
  | _ => pure ()
  skip
  match t.token.keyword with
  | "COPY" =>
    expectKeyword "GRANTS"
    return some (false, [])
  | "COMMENT" =>
    let _ ← symbol "="
    let _ ← literalText
    return some (false, [])
  | "AS" => return some (true, [.query (← r.query)])
  | "CLONE" | "LIKE" =>
    let _ ← objectName
    return some (true, [])
  | "CLUSTER" =>
    expectKeyword "BY"
    return some (false, exprList (← parenthesised (list (r.expr 0))))
  | "ON" =>
    unskip
    onCommit
    return some (false, [])
  | "IF" =>
    expectKeywords ["NOT", "EXISTS"]
    return some (false, [])
  | k =>
    if !assignedTableProperties.contains k then failAt t
    expectSymbol "="
    let _ ← r.expr 0
    return some (false, [])

/-- The rest of the definition of a table. -/
def createTableOf (r : Rules) : Parser (List Piece) := do
  ifNotExists
  let name ← tableName
  if !(← rule Dialect.unorderedTableProperties) then return .table name :: (← orderedTable r)
  let properties ← repeated (tableProperty r)
  if !properties.any (·.1) then failUnplaced
  return .table name :: (properties.map (·.2)).flatten

/-- The rest of the definition of a table in files, after the word `EXTERNAL`. -/
def createExternalOf (r : Rules) : Parser (List Piece) := do
  expectKeyword "TABLE"
  ifNotExists
  let name ← objectName
  let elements ← tableElements r
  let files ← fileLayout r
  let properties ← optionsOf r ["TBLPROPERTIES"]
  return .table name :: elements ++ files ++ properties.getD []

/-! ### Views, macros and indexes -/

/-- A column of a view. -/
def viewColumn (r : Rules) : Parser (List Piece) := do
  let _ ← identifier
  let options ← columnOptions r
  if ← rule Dialect.typedViewColumns then
    let _ ← typeName
  return options

/-- The columns of a view, if they are named. -/
def viewColumns (r : Rules) : Parser (List Piece) := do
  if !(← symbol "(") then return []
  if ← symbol ")" then return []
  let columns ← listWith (← rule Dialect.columnTrailingCommas) closesList (viewColumn r)
  expectSymbol ")"
  return columns.flatten

/-- The rest of the definition of a view, after the words for its kind. -/
def createViewOf (r : Rules) : Parser (List Piece) := do
  let d := (← read).dialect
  ifNotExists
  let _ ← tableName
  ifNotExists
  allow ["COPY", "GRANTS"]
  let columns ← viewColumns r
  let given ← optionsOf r ["WITH"]
  if ← keyword "CLUSTER" then
    expectKeyword "BY"
    let _ ← columnList
  let options ← if d.viewOptions then optionsOf r ["OPTIONS"] else pure none
  if ← onlyIf d.viewTargets (keyword "TO") then
    let _ ← objectName
  if ← onlyIf d.viewComments (keyword "COMMENT") then
    expectSymbol "="
    let _ ← literalText
  expectKeyword "AS"
  let q ← r.query
  let _ ← onlyIf d.unboundViews (keywords ["WITH", "NO", "SCHEMA", "BINDING"])
  return columns ++ given.getD [] ++ options.getD [] ++ [.query q]

/-- The parameter of a macro. -/
def macroParameter (r : Rules) : Parser (List Piece) := do
  let _ ← identifier
  if (← symbol ":=") || (← symbol "=>") then return [.expr (← r.expr 0)]
  return []

/-- The rest of the definition of a macro. -/
def createMacroOf (r : Rules) : Parser (List Piece) := do
  let _ ← objectName
  expectSymbol "("
  let parameters ← if ← atSymbol ")" then pure [] else list (macroParameter r)
  expectSymbol ")"
  expectKeyword "AS"
  let body ← if ← keyword "TABLE" then pure (Piece.query (← r.query))
    else pure (Piece.expr (← r.expr 0))
  return parameters.flatten ++ [body]

/-- The rest of the definition of a function. -/
def createFunctionOf (r : Rules) : Parser (List Piece) := do
  let d := (← read).dialect
  if d.macroFunctions then createMacroOf r
  else if d.functionDefinitions then toEnd
  else failBefore

/-- The rest of the definition of an index. -/
def createIndexOf (r : Rules) : Parser (List Piece) := do
  allow ["CONCURRENTLY"]
  let conditional ← keywords ["IF", "NOT", "EXISTS"]
  if conditional || !(← keyword "ON") then
    let _ ← objectName
    indexMethod
    expectKeyword "ON"
  let name ← objectName
  indexMethod
  let columns ← indexColumns r
  if ← keyword "INCLUDE" then
    let _ ← identifierList
  if ← keyword "NULLS" then
    allow ["NOT"]
    expectKeyword "DISTINCT"
  let given ← match ← after ["WITH"] (parenthesised (list (r.expr 0))) with
    | some es => pure (exprList es)
    | none => pure []
  let filter ← exprClause r ["WHERE"]
  indexOptions
  return .table name :: columns ++ given ++ filter

/-! ### Other definitions -/

/-- The rest of the definition of a schema. -/
def createSchemaOf (r : Rules) : Parser (List Piece) := do
  ifNotExists
  if ← keyword "AUTHORIZATION" then
    let _ ← identifier
  else
    let _ ← objectName
    if ← keyword "AUTHORIZATION" then
      let _ ← identifier
  let collation ← exprClause r ["DEFAULT", "COLLATE"]
  let given ← optionsOf r ["WITH"]
  let options ← optionsOf r ["OPTIONS"]
  if ← keyword "CLONE" then
    let _ ← objectName
  return collation ++ given.getD [] ++ options.getD []

/-- The rest of the definition of a database. -/
def createDatabaseOf : Parser (List Piece) := do
  ifNotExists
  let _ ← objectName
  let _ ← repeated do
    match ← oneOf ["LOCATION", "MANAGEDLOCATION"] with
    | some _ =>
      let _ ← literalText
      return some ()
    | none => return none
  if ← keyword "CLONE" then
    let _ ← objectName
  return []

/-- The rest of the definition of a sequence. -/
def createSequenceOf : Parser (List Piece) := do
  ifNotExists
  let _ ← objectName
  if ← keyword "AS" then
    let _ ← typeName
  sequenceOptions
  if ← keywords ["OWNED", "BY"] then
    let _ ← objectName
  return []

/-- The rest of the definition of a type. -/
def createTypeOf : Parser (List Piece) := do
  let _ ← objectName
  if !(← keyword "AS") then
    if ← atSymbol "(" then return ← toEnd
    return []
  if ← keyword "ENUM" then
    let _ ← parenthesised (listBefore ")" identifier)
  else if ← keyword "RANGE" then return ← toEnd
  else
    let _ ← parenthesised <| listBefore ")" do
      let _ ← identifier
      let _ ← typeName
      if ← keyword "COLLATE" then
        let _ ← objectName
  return []

/-- The rest of the definition of an extension. -/
def createExtensionOf : Parser (List Piece) := do
  ifNotExists
  let _ ← identifier
  if ← keyword "WITH" then
    if ← keyword "SCHEMA" then
      let _ ← identifier
    if ← keyword "VERSION" then
      let _ ← identifier
    allow ["CASCADE"]
  return []

/-- The rest of the definition of a secret. -/
def createSecretOf : Parser (List Piece) := do
  ifNotExists
  let place : Parser Bool := do
    if !(← keyword "IN") then return false
    let _ ← attempt identifier
    return true
  if !(← atSymbol "(") then
    if !(← place) then
      let _ ← attempt identifier
      let _ ← place
  parenthesised do
    expectKeyword "TYPE"
    let _ ← identifier
    if ← symbol "," then
      let _ ← list do
        let _ ← identifier
        identifier
  return []

/-- The rest of the definition of a table that a module keeps. -/
def createVirtualOf : Parser (List Piece) := do
  expectKeyword "TABLE"
  ifNotExists
  let name ← objectName
  expectKeyword "USING"
  let _ ← identifier
  let _ ← optionalList true identifier
  return [.table name]

/-- Things that may replace what they are named after, or be temporary. -/
def replaceableKinds (r : Rules) (d : Dialect) : List (List String × Parser (List Piece)) :=
  [(["TABLE"], createTableOf r), (["MATERIALIZED", "VIEW"], createViewOf r),
    (["VIEW"], createViewOf r), (["SECURE", "MATERIALIZED", "VIEW"], createViewOf r),
    (["SECURE", "VIEW"], createViewOf r), (["POLICY"], toEnd), (["EXTERNAL"], createExternalOf r),
    (["FUNCTION"], createFunctionOf r), (["DOMAIN"], toEnd), (["TRIGGER"], toEnd),
    (["CONSTRAINT", "TRIGGER"], toEnd),
    (["MACRO"], if d.macros then createMacroOf r else failBefore), (["SECRET"], createSecretOf),
    (["USER"], toEnd)]

/-- Other things that may be created. -/
def otherKinds (r : Rules) : List (List String × Parser (List Piece)) :=
  [(["EXTENSION"], createExtensionOf), (["INDEX"], createIndexOf r),
    (["UNIQUE", "INDEX"], createIndexOf r), (["VIRTUAL"], createVirtualOf),
    (["SCHEMA"], createSchemaOf r), (["DATABASE"], createDatabaseOf), (["ROLE"], toEnd),
    (["SEQUENCE"], createSequenceOf), (["TYPE"], createTypeOf), (["PROCEDURE"], toEnd),
    (["CONNECTOR"], toEnd), (["OPERATOR"], toEnd), (["SERVER"], toEnd)]

/-- The rest of a `CREATE`. -/
def createOf (r : Rules) : Parser (List Piece) := do
  let d := (← read).dialect
  let replacing ← keywords ["OR", "REPLACE"]
  allow ["OR", "ALTER"]
  allow ["LOCAL"]
  allow ["GLOBAL"]
  allow ["TRANSIENT"]
  allowOne ["TEMP", "TEMPORARY"]
  let _ ← onlyIf d.persistentObjects (keyword "PERSISTENT")
  if let some pieces ← choose (replaceableKinds r d) then return pieces
  if replacing then failHere
  if let some pieces ← choose (otherKinds r) then return pieces
  if ← onlyIf d.stagedCopies (keyword "STAGE") then return ← toEnd
  failHere

end Parser

end AssetFlow.Sql
