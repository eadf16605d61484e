import AssetFlow.Sql.Grammar.Create

/-!
# Statements about settings, sessions and databases

What is set, shown, explained, copied, prepared or attached.

## Main definitions

- `Parser.explainOf`, `Parser.setOf`, `Parser.showOf`, `Parser.copyOf`: the larger statements.
- `Parser.sessionStatement`: the statements by their first word.
-/

namespace AssetFlow.Sql

namespace Parser

/-! ### Plans and statistics -/

/-- An option of an explanation. -/
def explainOption (r : Rules) : Parser (List Piece) := do
  let _ ← identifier
  match ← peek with
  | .symbol "," | .symbol ")" => return []
  | _ => return [.expr (← r.expr 0)]

/-- How a plan is explained. -/
def explainMode (r : Rules) (describes : Bool) : Parser (List Piece) := do
  if !describes && (← rule Dialect.explainOptions) && (← atSymbol "(") then
    return (← parenthesised (list (explainOption r))).flatten
  if ← keywords ["QUERY", "PLAN"] then return []
  if ← keyword "ESTIMATE" then return []
  allow ["ANALYZE"]
  allow ["VERBOSE"]
  if ← keyword "FORMAT" then
    let _ ← symbol "="
    let _ ← expectOneOf ["TEXT", "GRAPHVIZ", "JSON", "TRADITIONAL", "TREE"]
  return []

/-- The rest of an `EXPLAIN` or, if `describes` holds, of a `DESCRIBE`. -/
def explainOf (r : Rules) (describes : Bool) : Parser (List Piece) := do
  let mode ← explainMode r describes
  let word ← keywordAt 0
  match ← attempt r.statement with
  | some s =>
    if ["EXPLAIN", "DESCRIBE", "DESC"].contains word then failUnplaced
    return mode ++ s.pieces
  | none =>
    allowOne ["EXTENDED", "FORMATTED"]
    if ← rule Dialect.describedTables then allow ["TABLE"]
    return mode ++ [.table (← objectName)]

/-- What is analyzed of a table, if more is said. -/
def analysis (r : Rules) : Parser (Option (List Piece)) := do
  choose
    [(["PARTITION"], do return exprList (← parenthesised (list (r.expr 0)))),
      (["NOSCAN"], return []),
      (["FOR"], do
        expectKeyword "COLUMNS"
        let _ ← attempt (list identifier)
        return []),
      (["CACHE"], do
        expectKeyword "METADATA"
        return []),
      (["COMPUTE"], do
        expectKeyword "STATISTICS"
        return [])]

/-- The rest of an `ANALYZE`. -/
def analyzeOf (r : Rules) : Parser (List Piece) := do
  allow ["TABLE"]
  let table ← match ← attempt objectName with
    | some name => do
      let _ ← columnList
      pure [Piece.table name]
    | none => pure []
  return table ++ (← repeated (analysis r)).flatten

/-! ### Settings -/

/-- A value of a setting. -/
def settingValue (r : Rules) : Parser (List Piece) := do
  if ← atQuery then return [.query (← r.query)]
  match ← attempt (r.expr 0) with
  | some e => return [.expr e]
  | none => failHere

/-- Values of a setting after commas. -/
def settingValues (r : Rules) : Nat → Parser (List Piece)
  | 0 => return []
  | n + 1 => do
    let value ← settingValue r
    if ← symbol "," then return value ++ (← settingValues r n) else return value

/-- Whether an assignment sign comes next, which is taken. -/
def assignmentSign : Parser Bool := do
  if ← symbol "=" then return true else keyword "TO"

/-- How far a setting reaches, if it is said. -/
def settingScope : Parser (Option String) :=
  oneOf ["SESSION", "LOCAL", "GLOBAL"]

/-- An assignment of one setting among others. -/
def settingAssignment (r : Rules) : Parser (List Piece) := do
  let _ ← settingScope
  let parenthesised ← rule Dialect.parenthesisedSettings
  if parenthesised && (← atSymbol "(") then failHere
  let _ ← objectName
  if !(← assignmentSign) then failHere
  return [.expr (← r.expr 0)]

/-- A setting with neither an equals sign nor a word in its place, from its name on. -/
def bareSetting (r : Rules) : Parser (List Piece) := do
  let onOrOff : Parser (List Piece) := do
    let _ ← expectOneOf ["ON", "OFF"]
    return []
  if ← keyword "STATISTICS" then
    let _ ← expectOneOf ["IO", "PROFILE", "TIME", "XML"]
    return ← onOrOff
  if ← keyword "IDENTITY_INSERT" then
    let _ ← objectName
    return ← onOrOff
  let word : Parser Unit := do
    let t ← next
    if !t.token.isWord then failAt t
  if ← keyword "OFFSETS" then
    let _ ← list word
    return ← onOrOff
  let _ ← list word
  return [.expr (← r.expr 0)]

/-- The rest of the assignment of a setting. -/
def setVariable (r : Rules) (isScoped : Bool) : Parser (List Piece) := do
  let d := (← read).dialect
  if d.assignmentLists then
    if isScoped then unskip
    if let some values ← attempt (list (settingAssignment r)) then return values.flatten
  if ← onlyIf d.parenthesisedSettings (symbol "(") then
    let _ ← list identifier
    expectSymbol ")"
    if !(← assignmentSign) then failHere
    return ← parenthesised do settingValues r (← turns)
  let place ← get
  let _ ← objectName
  if ← assignmentSign then return ← settingValues r (← turns)
  if !d.bareSettings then failHere
  set place
  bareSetting r

/-- What character set names have, after the word. -/
def setNames : Parser (List Piece) := do
  if ← keyword "DEFAULT" then return []
  let _ ← identifier
  if ← keyword "COLLATE" then
    let _ ← literalText
  return []

/-- The role of the session, if it is set. -/
def setRole : Parser (Option Unit) :=
  attempt do
    expectKeyword "ROLE"
    if !(← keyword "NONE") then
      let _ ← identifier

/-- The rest of a `SET` whose words are not those of a setting, if it is one; `modes` reads the
modes of a transaction. -/
def setSpecial (isScoped : Bool) (modes : Parser Unit) : Parser (Option (List Piece)) := do
  if ← onlyIf (← rule Dialect.namesSetting) (keyword "NAMES") then return some (← setNames)
  choose
    [(["CHARACTERISTICS"], do
        expectKeywords ["AS", "TRANSACTION"]
        modes
        return []),
      (["TRANSACTION"], do
        if ← keyword "SNAPSHOT" then
          let _ ← literal
        else modes
        return []),
      (["AUTHORIZATION"], do
        if !isScoped then failBefore
        if !(← keyword "DEFAULT") then
          let _ ← identifier
        return [])]

/-- The rest of a `SET`; `modes` reads the modes of a transaction. -/
def setOf (r : Rules) (modes : Parser Unit) : Parser (List Piece) := do
  let isScoped := (← settingScope).isSome
  if (← setRole).isSome then return []
  if (← keywords ["TIME", "ZONE"]) || (← keyword "TIMEZONE") then
    if ← assignmentSign then return ← settingValues r (← turns)
    return [.expr (← r.expr 0)]
  match ← setSpecial isScoped modes with
  | some pieces => return pieces
  | none => setVariable r isScoped

/-! ### Listings -/

/-- A filter of what is shown, if one is given. -/
def showFilter (r : Rules) : Parser (List Piece) := do
  if (← oneOf ["LIKE", "ILIKE"]).isSome then
    let _ ← literalText
    return []
  if ← keyword "WHERE" then return [.expr (← r.expr 0)]
  let _ ← attempt literalText
  return []

/-- Where to look for what is shown, if it is said. -/
def showPlace : Parser Unit := do
  if (← oneOf ["FROM", "IN"]).isNone then return
  let kind ← oneOf ["ACCOUNT", "DATABASE", "SCHEMA", "TABLE", "VIEW"]
  if kind.isNone then
    let _ ← objectName
    if (← oneOf ["FROM", "IN"]).isSome then
      let _ ← identifier
  else
    let limited := (← keywordAt 0) == "LIMIT" ||
      ((← keywordAt 0) == "STARTS" && (← keywordAt 1) == "WITH")
    if !limited then
      let _ ← attempt objectName

/-- Which things are shown, if it is said. -/
def showOptions (r : Rules) : Parser (List Piece) := do
  let filter ← if ← rule Dialect.showFiltersFirst then do
      let filter ← showFilter r
      showPlace
      pure filter
    else do
      showPlace
      showFilter r
  if ← keywords ["STARTS", "WITH"] then
    let _ ← literal
  let limit ← exprClause r ["LIMIT"]
  if ← keyword "FROM" then
    let _ ← literal
  return filter ++ limit

/-- The kind of a definition to show, and its name. -/
def showCreate : Parser (List Piece) := do
  let _ ← expectOneOf ["TABLE", "TRIGGER", "FUNCTION", "PROCEDURE", "EVENT", "VIEW"]
  let _ ← objectName
  return []

/-- The rest of a `SHOW`. -/
def showOf (r : Rules) : Parser (List Piece) := do
  allow ["TERSE"]
  let extended ← keyword "EXTENDED"
  let full ← keyword "FULL"
  allow ["SESSION"]
  allow ["GLOBAL"]
  allow ["EXTERNAL"]
  let listed ← choose
    [(["COLUMNS"], showOptions r), (["FIELDS"], showOptions r), (["TABLES"], showOptions r),
      (["MATERIALIZED", "VIEWS"], showOptions r), (["VIEWS"], showOptions r),
      (["FUNCTIONS"], showFilter r)]
  if let some pieces := listed then return pieces
  if extended || full then failUnplaced
  let named ← rule Dialect.shownVariables
  let found ← choose <|
    [(["CREATE"], showCreate), (["COLLATION"], showFilter r)] ++
    (if named then [(["VARIABLES"], showFilter r), (["STATUS"], showFilter r)] else []) ++
    [(["CATALOGS"], showOptions r), (["DATABASES"], showOptions r), (["SCHEMAS"], showOptions r)]
  match found with
  | some pieces => return pieces
  | none =>
    let _ ← pipedNames
    return []

/-- The rest of a `USE`. -/
def useOf : Parser (List Piece) := do
  let kinds := match (← read).dialect with
    | .databricks => ["CATALOG", "DATABASE", "SCHEMA"]
    | .snowflake => ["DATABASE", "SCHEMA", "WAREHOUSE", "ROLE", "SECONDARY"]
    | _ => []
  if (← oneOf kinds) == some "SECONDARY" then
    let _ ← expectOneOf ["ROLES", "ROLE"]
    if (← oneOf ["NONE", "ALL"]).isNone then
      let _ ← list identifier
  else
    let _ ← objectName
  return []

/-! ### Copies -/

/-- A text of one character. -/
def literalChar : Parser Unit := do
  let t ← peekNth 0
  if (← literalText).length != 1 then throw (.unexpected t.start)

/-- A choice that holds unless it is denied. -/
def optionalFlag : Parser Unit :=
  allowOne ["TRUE", "FALSE"]

/-- An option of a copy in parentheses. -/
def copyOption : Parser Unit := do
  let name : Parser Unit := do
    let _ ← identifier
  let text : Parser Unit := do
    let _ ← literalText
  let names : Parser Unit := do
    let _ ← identifierList
  let found ← choose
    [(["FORMAT"], name), (["FREEZE"], optionalFlag), (["DELIMITER"], literalChar),
      (["NULL"], text), (["HEADER"], optionalFlag), (["QUOTE"], literalChar),
      (["ESCAPE"], literalChar), (["FORCE_QUOTE"], names), (["FORCE_NOT_NULL"], names),
      (["FORCE_NULL"], names), (["ENCODING"], text)]
  if found.isNone then failHere

/-- An option of a copy of comma separated values without parentheses. -/
def valuesOption : Parser (Option Unit) :=
  attempt do
    let quoted : Parser Unit := do
      allow ["AS"]
      literalChar
    let names : Parser Unit := do
      let _ ← list identifier
    let found ← choose
      [(["HEADER"], return ()), (["QUOTE"], quoted), (["ESCAPE"], quoted),
        (["FORCE", "NOT", "NULL"], names), (["FORCE", "QUOTE"], names)]
    if found.isNone then failHere

/-- An option of a copy without parentheses. -/
def plainCopyOption : Parser (Option Unit) :=
  attempt do
    let quoted : Parser Unit := do
      allow ["AS"]
      literalChar
    let text : Parser Unit := do
      allow ["AS"]
      let _ ← literalText
    let values : Parser Unit := do
      let _ ← repeated valuesOption
    let found ← choose
      [(["BINARY"], return ()), (["DELIMITER"], quoted), (["NULL"], text), (["CSV"], values),
        (["GZIP"], return ()), (["ZSTD"], return ()), (["BZIP2"], return ()),
        (["PARQUET"], return ()), (["REGION"], text), (["IAM_ROLE"], text), (["JSON"], text),
        (["HEADER"], return ()), (["MANIFEST"], return ()), (["ALLOWOVERWRITE"], return ()),
        (["ADDQUOTES"], return ()), (["REMOVEQUOTES"], return ()), (["ESCAPE"], return ())]
    if found.isNone then failHere

/-- What is copied. -/
def copySource (r : Rules) : Parser (Bool × List Piece) := do
  if ← symbol "(" then
    let q ← r.query
    expectSymbol ")"
    return (true, [.query q])
  let _ ← objectName
  let _ ← columnList
  return (false, [])

/-- Skips the rows that follow a statement in tabs and lines, up to their end mark. -/
def skipRows : Parser Unit := do
  let _ ← repeated do
    if ← symbols ["\\", "."] then return none
    if (← peek) == .finish then return none
    skip
    return some ()

/-- The rest of a `COPY`. -/
def copyOf (r : Rules) : Parser (List Piece) := do
  let (fromQuery, source) ← copySource r
  let word ← expectOneOf ["FROM", "TO"]
  if word == "FROM" && fromQuery then failUnplaced
  let fromInput ← keyword "STDIN"
  if !fromInput && !(← keyword "STDOUT") then
    allow ["PROGRAM"]
    let _ ← literalText
  allow ["WITH"]
  if ← symbol "(" then
    let _ ← list copyOption
    expectSymbol ")"
  let _ ← repeated plainCopyOption
  if fromInput then
    expectSymbol ";"
    skipRows
  return source

/-- The query that a cached table is filled with, up to the end of the text. -/
def cachedQuery (r : Rules) : Parser (List Piece) := do
  let options ← optionsOf r ["OPTIONS"]
  if (← peek) == .finish then return options.getD []
  allow ["AS"]
  return options.getD [] ++ [.query (← r.query)]

/-- The rest of a `CACHE`. -/
def cacheOf (r : Rules) : Parser (List Piece) := do
  if !(← keyword "TABLE") then
    let _ ← objectName
    expectKeyword "TABLE"
  let name ← objectName
  return .table name :: (← cachedQuery r)

/-- The rest of an `UNLOAD`. -/
def unloadOf (r : Rules) : Parser (List Piece) := do
  expectSymbol "("
  let source ← match ← peek with
    | .string .single _ => do
      skip
      pure []
    | _ => do pure [Piece.query (← r.query)]
  expectSymbol ")"
  expectKeyword "TO"
  let _ ← identifier
  let given ← optionsOf r ["WITH"]
  let _ ← repeated plainCopyOption
  return source ++ given.getD []

/-! ### Prepared statements and cursors -/

/-- The rest of a `PREPARE`. -/
def prepareOf (r : Rules) : Parser (List Piece) := do
  let _ ← identifier
  let _ ← optionalList false typeName
  expectKeyword "AS"
  return (← r.statement).pieces

/-- The rest of an `EXECUTE`. -/
def executeOf (r : Rules) : Parser (List Piece) := do
  let immediate ← onlyIf (← rule Dialect.immediateExecution) (keyword "IMMEDIATE")
  if !immediate && !(← atSymbol "(") then
    let _ ← objectName
  let enclosed ← symbol "("
  let none_ ← match ← peek with
    | .symbol ")" => pure enclosed
    | .finish | .symbol ";" => pure !enclosed
    | t => pure (!enclosed && ["USING", "OUTPUT", "DEFAULT"].contains t.keyword)
  let parameters ← if none_ then pure [] else list (r.expr 0)
  if enclosed then expectSymbol ")"
  if ← keyword "INTO" then
    let _ ← list identifier
  let values ← match ← after ["USING"] (list (item r)) with
    | some items => pure (itemPieces items)
    | none => pure []
  allow ["OUTPUT"]
  allow ["DEFAULT"]
  return exprList parameters ++ values

/-- The rest of a `FETCH`. -/
def fetchOf : Parser (List Piece) := do
  let number : Parser Unit := do
    let _ ← numberLiteral
  let nothing : Parser Unit := return ()
  let distance : Parser Unit := do
    if !(← keyword "ALL") then number
  let direction ← choose
    [(["NEXT"], nothing), (["PRIOR"], nothing), (["FIRST"], nothing), (["LAST"], nothing),
      (["ABSOLUTE"], number), (["RELATIVE"], number), (["FORWARD"], distance),
      (["BACKWARD"], distance), (["ALL"], nothing)]
  if direction.isNone then number
  let _ ← expectOneOf ["FROM", "IN"]
  let _ ← identifier
  if ← keyword "INTO" then
    let _ ← objectName
  return []

/-- The rest of a `DECLARE` of a cursor. -/
def declareOf (r : Rules) : Parser (List Piece) := do
  match (← read).dialect with
  | .bigQuery | .snowflake | .msSql => toEnd
  | _ =>
    let _ ← identifier
    allow ["BINARY"]
    allowOne ["INSENSITIVE", "ASENSITIVE"]
    if !(← keyword "SCROLL") then allow ["NO", "SCROLL"]
    expectKeyword "CURSOR"
    if (← oneOf ["WITH", "WITHOUT"]).isSome then expectKeyword "HOLD"
    expectKeyword "FOR"
    return [.query (← r.query)]

/-- The rest of a `CALL`. -/
def callOf (r : Rules) : Parser (List Piece) := do
  let name ← objectName
  if ← atSymbol "(" then return [.expr (← functionCall r name)] else return []

/-! ### Databases and maintenance -/

/-- An option of an attached file. -/
def attachOption : Parser Unit := do
  let found ← choose
    [(["READ_ONLY"], optionalFlag),
      (["TYPE"], do
        let _ ← identifier)]
  if found.isNone then failHere

/-- The rest of an `ATTACH`. -/
def attachOf (r : Rules) : Parser (List Piece) := do
  allow ["DATABASE"]
  if !(← rule Dialect.attachedFiles) then
    let e ← r.expr 0
    expectKeyword "AS"
    let _ ← identifier
    return [.expr e]
  ifNotExists
  let _ ← identifier
  if ← keyword "AS" then
    let _ ← identifier
  if ← atSymbol "(" then
    let _ ← parenthesised (listWith false closesList attachOption)
  return []

/-- Kinds of objects that comments may be set on. -/
def commentedKinds : List (List String) :=
  [["COLUMN"], ["DATABASE"], ["DOMAIN"], ["EXTENSION"], ["FUNCTION"], ["INDEX"],
    ["MATERIALIZED", "VIEW"], ["PROCEDURE"], ["ROLE"], ["SCHEMA"], ["SEQUENCE"], ["TABLE"],
    ["TYPE"], ["USER"], ["VIEW"]]

/-- The rest of a `COMMENT`. -/
def commentOf : Parser (List Piece) := do
  ifExists
  expectKeyword "ON"
  let name : Parser Unit := do
    let _ ← objectName
  if (← choose (commentedKinds.map fun words => (words, name))).isNone then failHere
  expectKeyword "IS"
  if !(← keyword "NULL") then
    let _ ← literalText
  return []

/-- A value of a pragma. -/
def pragmaValue : Parser Unit := do
  match ← peek with
  | .string .single _ | .string .double _ | .number .. | .placeholder _ =>
    let _ ← literal
  | _ => failHere

/-- The rest of a `PRAGMA`. -/
def pragmaOf : Parser (List Piece) := do
  let _ ← objectName
  if ← symbol "(" then
    pragmaValue
    expectSymbol ")"
  else if ← symbol "=" then pragmaValue
  return []

/-- The rest of an `OPTIMIZE`. -/
def optimizeOf (r : Rules) : Parser (List Piece) := do
  expectKeyword "TABLE"
  let _ ← objectName
  onCluster
  let partition ← if ← keyword "PARTITION" then do
      if ← keyword "ID" then
        let _ ← identifier
        pure []
      else pure [.expr (← r.expr 0)]
    else pure []
  allow ["FINAL"]
  let duplicates ← if ← keyword "DEDUPLICATE" then exprClause r ["BY"] else pure []
  return partition ++ duplicates

/-- The rest of a `VACUUM`. -/
def vacuumOf : Parser (List Piece) := do
  allow ["FULL"]
  allow ["SORT", "ONLY"]
  allow ["DELETE", "ONLY"]
  allow ["REINDEX"]
  allow ["RECLUSTER"]
  if (← attempt objectName).isSome then
    if ← keyword "TO" then
      let _ ← literal
      expectKeyword "PERCENT"
    allow ["BOOST"]
  return []

/-- The rest of a `KILL`. -/
def killOf : Parser (List Piece) := do
  let kind ← oneOf ["CONNECTION", "QUERY", "MUTATION"]
  let _ ← wholeNumber
  if kind == some "MUTATION" && !(← rule Dialect.mutations) then failHere
  return []

/-- The rest of an `MSCK`. -/
def repairOf : Parser (List Piece) := do
  allow ["REPAIR"]
  expectKeyword "TABLE"
  let name ← objectName
  let _ ← attempt do
    let _ ← oneOf ["ADD", "DROP", "SYNC"]
    expectKeyword "PARTITIONS"
  return [.table name]

/-- The rest of an `EXPORT`. -/
def exportOf (r : Rules) : Parser (List Piece) := do
  expectKeyword "DATA"
  if ← keywords ["WITH", "CONNECTION"] then
    let _ ← objectName
  let given ← optionsOf r ["OPTIONS"]
  expectKeyword "AS"
  return given.getD [] ++ [.query (← r.query)]

/-- The rest of a `RENAME`. -/
def renameOf : Parser (List Piece) := do
  expectKeyword "TABLE"
  let _ ← list do
    let _ ← objectName
    expectKeyword "TO"
    objectName
  return []

/-- The rest of an error that is raised. -/
def raiseErrorOf (r : Rules) : Parser (List Piece) := do
  let es ← parenthesised do
    let message ← r.expr 0
    expectSymbol ","
    let severity ← r.expr 0
    expectSymbol ","
    let state ← r.expr 0
    let more ← if ← symbol "," then list (r.expr 0) else pure []
    return message :: severity :: state :: more
  if ← keyword "WITH" then
    let _ ← list (expectOneOf ["LOG", "NOWAIT", "SETERROR"])
  return exprList es

/-- An expression, if one comes next. -/
def optionalExpr (r : Rules) : Parser (List Piece) := do
  match ← attempt (r.expr 0) with
  | some e => return [.expr e]
  | none => return []

/-- The rest of an exception that is raised. -/
def raiseOf (r : Rules) : Parser (List Piece) := do
  if ← keywords ["USING", "MESSAGE"] then
    expectSymbol "="
    return [.expr (← r.expr 0)]
  optionalExpr r

/-! ### All together -/

/-- A statement whose rest is one name. -/
def oneIdentifier : Parser (List Piece) := do
  let _ ← identifier
  return []

/-- The rest of the statement that starts with the keyword `k` and exists in some dialects only, if
it is one of `d`. -/
def dialectStatement (r : Rules) (d : Dialect) (k : String) : Option (Parser (List Piece)) :=
  let given (allowed : Bool) (p : Parser (List Piece)) : Option (Parser (List Piece)) :=
    if allowed then some p else none
  match k with
  | "DETACH" => given d.extensions do
    allow ["DATABASE"]
    ifExists
    oneIdentifier
  | "INSTALL" | "LOAD" => given d.extensions oneIdentifier
  | "LISTEN" => given d.notifications oneIdentifier
  | "UNLISTEN" => given d.notifications do
    if ← symbol "*" then return [] else oneIdentifier
  | "NOTIFY" => given d.notifications do
    let _ ← identifier
    if ← symbol "," then
      let _ ← literalText
    return []
  | "OPTIMIZE" => given d.optimizedTables (optimizeOf r)
  | "COMMENT" => given d.objectComments commentOf
  | "LOCK" | "UNLOCK" => given d.tableLocks do
    expectKeyword "TABLES"
    toEnd
  | "LIST" | "LS" | "REMOVE" | "RM" => given d.stagedCopies toEnd
  | "FLUSH" => some (if d.flushes then toEnd else failHere)
  | "REPLACE" => some (if d.replaceStatements then insertOf r "REPLACE" else failHere)
  | _ => none

/-- The rest of the statement about settings, sessions or databases that starts with the keyword
`k`, if it is one. -/
def sessionStatement (r : Rules) (modes : Parser Unit) (k : String) :
    Option (Parser (List Piece)) :=
  match k with
  | "EXPLAIN" => some (explainOf r false)
  | "DESCRIBE" | "DESC" => some (explainOf r true)
  | "ANALYZE" => some (analyzeOf r)
  | "SET" => some (setOf r modes)
  | "SHOW" => some (showOf r)
  | "USE" => some useOf
  | "COPY" => some (copyOf r)
  | "CACHE" => some (cacheOf r)
  | "UNCACHE" => some do
    expectKeyword "TABLE"
    ifExists
    return [.table (← objectName)]
  | "UNLOAD" => some (unloadOf r)
  | "PREPARE" => some (prepareOf r)
  | "EXECUTE" | "EXEC" => some (executeOf r)
  | "DEALLOCATE" => some do
    allow ["PREPARE"]
    oneIdentifier
  | "FETCH" => some fetchOf
  | "DECLARE" => some (declareOf r)
  | "OPEN" => some oneIdentifier
  | "CLOSE" => some do
    if ← keyword "ALL" then return [] else oneIdentifier
  | "CALL" => some (callOf r)
  | "ASSERT" => some do
    let e ← r.expr 0
    return .expr e :: (← exprClause r ["AS"])
  | "ATTACH" => some (attachOf r)
  | "PRAGMA" => some pragmaOf
  | "VACUUM" => some vacuumOf
  | "KILL" => some killOf
  | "MSCK" => some repairOf
  | "EXPORT" => some (exportOf r)
  | "RENAME" => some renameOf
  | "DISCARD" => some do
    let _ ← expectOneOf ["ALL", "PLANS", "SEQUENCES", "TEMP", "TEMPORARY"]
    return []
  | "RESET" => some do
    if !(← keyword "ALL") then
      let _ ← objectName
    return []
  | "PRINT" => some do return [.expr (← r.expr 0)]
  | "RETURN" => some (optionalExpr r)
  | "RAISE" => some (raiseOf r)
  | "RAISERROR" => some (raiseErrorOf r)
  | "GRANT" | "REVOKE" | "DENY" => some toEnd
  | _ => none

end Parser

end AssetFlow.Sql
