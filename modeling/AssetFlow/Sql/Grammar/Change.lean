import AssetFlow.Sql.Grammar.Query

/-!
# Statements that change data

Inserts, updates, deletes and merges. They may also stand in the place of the body of a query.

## Main definitions

- `Parser.columnList`, `Parser.objectList`: optional lists of columns in parentheses.
- `Parser.insertOf`, `Parser.updateOf`, `Parser.deleteOf`, `Parser.mergeOf`: the four statements.
- `Parser.change`: any of them.
-/

namespace AssetFlow.Sql

namespace Parser

/-! ### Parts of several statements -/

/-- A list in parentheses, if there is one; it may be empty if `allowEmpty` holds. -/
def optionalList (allowEmpty : Bool) (item : Parser α) : Parser (Option (List α)) := do
  if !(← symbol "(") then return none
  if ← onlyIf allowEmpty (symbol ")") then return some []
  let items ← list item
  expectSymbol ")"
  return some items

/-- Columns in parentheses, if there are any. -/
def columnList : Parser String := do
  match ← optionalList false identifier with
  | some names => return " (" ++ commaSeparated (names.map Ident.render) ++ ")"
  | none => return ""

/-- Possibly qualified columns in parentheses, if there are any. -/
def objectList (allowEmpty : Bool) : Parser String := do
  match ← optionalList allowEmpty objectName with
  | some names => return " (" ++ commaSeparated (names.map ObjectName.render) ++ ")"
  | none => return ""

/-- What a change does about conflicting rows, if it is said after its word. -/
def conflictResolution : Parser String := do
  let word (k : String) : List String × Parser String := (["OR", k], return " OR " ++ k)
  return (← choose (["REPLACE", "ROLLBACK", "ABORT", "FAIL", "IGNORE"].map word)).getD ""

/-- Relations with commas between them. -/
def sourcePieces (ts : List TableWithJoins) : List Piece :=
  separated ", " (ts.map fun t => [.source t])

/-- The relations of a clause after the word `word`, if it is given. -/
def sourcesClause (word : String) (p : Parser (List TableWithJoins)) : Parser (List Piece) := do
  match ← after [word] p with
  | some ts => return .text (" " ++ word ++ " ") :: sourcePieces ts
  | none => return []

/-- The rows that a change answers with, if any are asked for. -/
def returning (r : Rules) : Parser (List Piece) := do
  return optionalPieces " RETURNING " ((← after ["RETURNING"] (list (item r))).map itemPieces)

/-! ### Inserts -/

/-- How urgent an insert is. -/
def insertPriority : Parser String := do
  if !(← rule Dialect.insertPriorities) then return ""
  let speed ← oneOf ["LOW_PRIORITY", "DELAYED", "HIGH_PRIORITY"]
  let ignore ← flag ["IGNORE"] " IGNORE"
  return (match speed with | some k => " " ++ k | none => "") ++ ignore

/-- What an insert writes to. -/
def insertTarget (r : Rules) : Parser (List Piece) := do
  if ← onlyIf (← rule Dialect.insertFunctions) (keyword "FUNCTION") then
    return [.text " FUNCTION ", .expr (← functionCall r (← objectName))]
  return [.text " ", .table (← objectName)]

/-- The alias of the table of an insert, if it has one. -/
def insertAlias : Parser String := do
  if !(← rule Dialect.insertAliases) || (← atQuery) ||
      ["DEFAULT", "VALUES"].contains (← keywordAt 0) then
    return ""
  let name ← if ← keyword "AS" then some <$> identifier else attempt identifier
  return match name with
  | some i => " AS " ++ i.render
  | none => ""

/-- The columns and the partition of an insert. -/
def insertPlace (r : Rules) : Parser (List Piece) := do
  if (← atSymbol "(") && ["SELECT", "WITH"].contains (← keywordAt 1) then return []
  let columns ← objectList (← rule Dialect.emptyColumnLists)
  let partition ← match ← after ["PARTITION"] (parenthesised (list (r.expr 0))) with
    | some es => pure (.text " PARTITION (" :: exprList es ++ [.text ")"])
    | none => pure []
  return .text columns :: partition

/-- The rows of an insert. -/
def insertedRows (r : Rules) : Parser (List Piece) := do
  if ["FORMAT", "SETTINGS"].contains (← keywordAt 0) then return []
  if ← onlyIf (← rule Dialect.insertAssignments) (keyword "SET") then
    return .text " SET " :: (← assignments r)
  return [.text " ", .query (← r.query)]

/-- The settings and the format of the rows of an insert. -/
def insertFormat (r : Rules) : Parser (List Piece) := do
  if !(← rule Dialect.insertFormats) then return []
  let given ← settings r
  let shown := if given.isEmpty then [] else .text " " :: given
  if !(← keyword "FORMAT") then return shown
  let name ← identifier
  let values ← match ← peek with
    | .finish | .symbol ";" => pure []
    | _ => do pure (.text " " :: exprList (← list (r.expr 0)))
  return shown ++ .text (" FORMAT " ++ name.render) :: values

/-- The alias of the rows of an insert, if they have one. -/
def insertedAlias : Parser String := do
  if !(← onlyIf (← rule Dialect.insertedRowAliases) (keyword "AS")) then return ""
  let name ← objectName
  return " AS " ++ name.render ++ (← columnList)

/-- What an insert does about conflicting rows, if it is said at its end. -/
def onConflict (r : Rules) : Parser (List Piece) := do
  if !(← keyword "ON") then return []
  if !(← keyword "CONFLICT") then
    expectKeywords ["DUPLICATE", "KEY", "UPDATE"]
    return .text " ON DUPLICATE KEY UPDATE " :: (← assignments r)
  let target ← if ← keywords ["ON", "CONSTRAINT"] then
      pure (" ON CONSTRAINT " ++ (← objectName).render)
    else columnList
  expectKeyword "DO"
  if ← keyword "NOTHING" then return [.text (" ON CONFLICT" ++ target ++ " DO NOTHING")]
  expectKeywords ["UPDATE", "SET"]
  let sets ← assignments r
  let filter ← exprClause r ["WHERE"]
  return .text (" ON CONFLICT" ++ target ++ " DO UPDATE SET ") :: sets ++ filter

/-- An insert whose rows are written to files. -/
def directoryOf (r : Rules) : Parser (List Piece) := do
  let path ← literalText
  if ← keywords ["STORED", "AS"] then
    let _ ← identifier
  return [.text (" DIRECTORY " ++ inQuotes '\'' path ++ " "), .query (← r.query)]

/-- The rest of an insert, which starts with the word `word`. -/
def insertOf (r : Rules) (word : String) : Parser (List Piece) := do
  let conflict ← conflictResolution
  let priority ← insertPriority
  let overwrite ← flag ["OVERWRITE"] " OVERWRITE"
  let into ← flag ["INTO"] " INTO"
  let isLocal ← flag ["LOCAL"] " LOCAL"
  if ← keyword "DIRECTORY" then
    return .text (word ++ overwrite ++ isLocal) :: (← directoryOf r)
  let table ← flag ["TABLE"] " TABLE"
  let target ← insertTarget r
  let label ← insertAlias
  let rows ← if ← keywords ["DEFAULT", "VALUES"] then pure [.text " DEFAULT VALUES"]
    else do
      let place ← insertPlace r
      pure (place ++ (← insertedRows r))
  let format ← insertFormat r
  let rowAlias ← insertedAlias
  let onConflicts ← onConflict r
  let back ← returning r
  return .text (word ++ conflict ++ priority ++ overwrite ++ into ++ table) :: target ++
    .text label :: rows ++ format ++ .text rowAlias :: onConflicts ++ back

/-! ### Updates and deletes -/

/-- The rest of an update. -/
def updateOf (r : Rules) : Parser (List Piece) := do
  let conflict ← conflictResolution
  let target ← tableWithJoins r
  let before ← sourcesClause "FROM" (sources r)
  expectKeyword "SET"
  let sets ← assignments r
  let behind ← if before.isEmpty then sourcesClause "FROM" (sources r) else pure []
  let filter ← exprClause r ["WHERE"]
  let back ← returning r
  let limit ← exprClause r ["LIMIT"]
  return .text ("UPDATE" ++ conflict ++ " ") :: .source target :: before ++ .text " SET " :: sets ++
    behind ++ filter ++ back ++ limit

/-- The tables that a delete names before the word `FROM`, and that word. -/
def deletedTables : Parser String := do
  if ← keyword "FROM" then return "FROM "
  if ← rule Dialect.bareDeletes then return ""
  let names ← list objectName
  expectKeyword "FROM"
  return commaSeparated (names.map ObjectName.render) ++ " FROM "

/-- The limit of a delete, if it has one. -/
def deleteLimit (r : Rules) : Parser (List Piece) := do
  if !(← keyword "LIMIT") then return []
  if ← keyword "ALL" then return []
  return [.text " LIMIT ", .expr (← r.expr 0)]

/-- The rest of a delete. -/
def deleteOf (r : Rules) : Parser (List Piece) := do
  let tables ← deletedTables
  let relations ← list (tableWithJoins r)
  let others ← sourcesClause "USING" (list (tableWithJoins r))
  let filter ← exprClause r ["WHERE"]
  let back ← returning r
  let order ← orderClause r ["ORDER", "BY"]
  let limit ← deleteLimit r
  return .text ("DELETE " ++ tables) :: sourcePieces relations ++ others ++ filter ++ back ++
    order ++ limit

/-! ### Merges -/

/-- An update in a merge, after its word. -/
def mergeUpdate (r : Rules) : Parser (List Piece) := do
  expectKeyword "SET"
  let sets ← assignments r
  let filters ← if ← rule Dialect.mergeFilters then do
      let kept ← exprClause r ["WHERE"]
      pure (kept ++ (← exprClause r ["DELETE", "WHERE"]))
    else pure []
  return .text "UPDATE SET " :: sets ++ filters

/-- An insert in a merge, after its word. -/
def mergeInsert (r : Rules) : Parser (List Piece) := do
  let d := (← read).dialect
  let columns ← objectList d.emptyColumnLists
  let rows ← if ← onlyIf d.mergedRows (keyword "ROW") then pure [.text "ROW"]
    else do
      expectKeyword "VALUES"
      pure (.text "VALUES " :: (← valueRows r d.emptyColumnLists))
  let filter ← if d.mergeFilters then exprClause r ["WHERE"] else pure []
  return .text ("INSERT" ++ columns ++ " ") :: rows ++ filter

/-- What a clause of a merge does. Rows that the target lacks can only be inserted, and others
cannot. -/
def mergeAction (r : Rules) (lacking : Bool) : Parser (List Piece) := do
  match ← oneOf ["UPDATE", "INSERT", "DELETE"] with
  | some "INSERT" => if lacking then mergeInsert r else failBefore
  | some "UPDATE" => if lacking then failBefore else mergeUpdate r
  | some _ => if lacking then failBefore else return [.text "DELETE"]
  | none => failHere

/-- One clause of a merge, if one comes next. -/
def mergeClause (r : Rules) : Parser (Option (List Piece)) := do
  if !(← keyword "WHEN") then return none
  let not_ ← flag ["NOT"] "NOT "
  expectKeyword "MATCHED"
  let by_ ← if not_ == "" then pure ""
    else if ← keywords ["BY", "SOURCE"] then pure " BY SOURCE"
    else flag ["BY", "TARGET"] " BY TARGET"
  let condition ← exprClause r ["AND"]
  expectKeyword "THEN"
  let action ← mergeAction r (not_ != "" && by_ != " BY SOURCE")
  return some <|
    .text (" WHEN " ++ not_ ++ "MATCHED" ++ by_) :: condition ++ .text " THEN " :: action

/-- The rows that a merge answers with, if any are asked for. -/
def mergeOutput (r : Rules) : Parser (List Piece) := do
  match ← oneOf ["OUTPUT", "RETURNING"] with
  | none => return []
  | some word =>
    let items ← projection r
    let into ← if word == "OUTPUT" then intoTable else pure []
    return .text (" " ++ word ++ " ") :: itemPieces items ++ into

/-- The rest of a merge. -/
def mergeOf (r : Rules) : Parser (List Piece) := do
  let into ← flag ["INTO"] "INTO "
  let target ← tableFactor r
  expectKeyword "USING"
  let source ← tableFactor r
  expectKeyword "ON"
  let e ← r.expr 0
  let clauses ← repeated (mergeClause r)
  let output ← mergeOutput r
  return [.text ("MERGE " ++ into), .factor target, .text " USING ", .factor source, .text " ON ",
    .expr e] ++ clauses.flatten ++ output

/-- A statement that changes data. -/
def change (r : Rules) : Parser (List Piece) := do
  match ← oneOf ["INSERT", "UPDATE", "DELETE", "MERGE"] with
  | some "INSERT" => insertOf r "INSERT"
  | some "UPDATE" => updateOf r
  | some "DELETE" => deleteOf r
  | some _ => mergeOf r
  | none => failHere

end Parser

end AssetFlow.Sql
