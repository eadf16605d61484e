import AssetFlow.Sql.Grammar.Create

/-!
# Statements that alter and remove things

## Main definitions

- `Parser.dropOf`, `Parser.truncateOf`: the rest of a `DROP` and of a `TRUNCATE`.
- `Parser.alterOf`: the rest of an `ALTER`.
-/

namespace AssetFlow.Sql

namespace Parser

/-! ### Removing -/

/-- What becomes of the things that depend on something removed, if it is said. -/
def dropBehavior : Parser Unit :=
  allowOne ["CASCADE", "RESTRICT"]

/-- Functions to be removed, with the types of their parameters. -/
def dropFunctionsOf : Parser (List Piece) := do
  ifExists
  let _ ← list do
    let _ ← objectName
    if ← atSymbol "(" then
      let _ ← parenthesised <| listBefore ")" do
        allowOne ["IN", "OUT", "INOUT"]
        typeName
  dropBehavior
  return []

/-- Something to be removed that belongs to a table or to nothing. -/
def dropOneOf : Parser (List Piece) := do
  ifExists
  let _ ← objectName
  if ← keyword "ON" then
    let _ ← objectName
  dropBehavior
  return []

/-- A secret to be removed. -/
def dropSecretOf : Parser (List Piece) := do
  ifExists
  let _ ← identifier
  if ← keyword "FROM" then
    let _ ← identifier
  return []

/-- Extensions to be removed. -/
def dropExtensionsOf : Parser (List Piece) := do
  ifExists
  let _ ← list identifier
  dropBehavior
  return []

/-- Names of things to be removed; `isRole` says that they are roles, on which nothing depends. -/
def dropNamesOf (isRole : Bool) : Parser (List Piece) := do
  ifExists
  let _ ← list objectName
  let behind ← peekNth 0
  let cascade ← keyword "CASCADE"
  let restricted ← keyword "RESTRICT"
  let purge ← keyword "PURGE"
  if cascade && restricted || isRole && (cascade || restricted || purge) then failAt behind
  if ← keyword "ON" then
    let _ ← objectName
  return []

/-- Kinds of things that are removed by their names. -/
def droppedByName : List (List String) :=
  [["TABLE"], ["VIEW"], ["MATERIALIZED", "VIEW"], ["INDEX"], ["SCHEMA"], ["DATABASE"],
    ["SEQUENCE"], ["STAGE"], ["TYPE"], ["USER"], ["STREAM"]]

/-- The rest of a `DROP`. -/
def dropOf : Parser (List Piece) := do
  let d := (← read).dialect
  let _ ← onlyIf d.droppedTemporaries (keyword "TEMPORARY")
  let _ ← onlyIf d.persistentObjects (keyword "PERSISTENT")
  let found ← choose <|
    (droppedByName.map fun words => (words, dropNamesOf false)) ++
    [(["ROLE"], dropNamesOf true), (["FUNCTION"], dropFunctionsOf), (["POLICY"], dropOneOf),
      (["CONNECTOR"], dropOneOf), (["DOMAIN"], dropOneOf), (["PROCEDURE"], dropFunctionsOf),
      (["SECRET"], dropSecretOf), (["TRIGGER"], dropOneOf), (["EXTENSION"], dropExtensionsOf),
      (["OPERATOR"], toEnd)]
  match found with
  | some pieces => return pieces
  | none => failHere

/-- The rest of a `TRUNCATE`. -/
def truncateOf (r : Rules) : Parser (List Piece) := do
  allow ["TABLE"]
  ifExists
  let names ← list do
    allow ["ONLY"]
    let name ← objectName
    let _ ← symbol "*"
    return Piece.table name
  let partition ← match ← after ["PARTITION"] (parenthesised (list (r.expr 0))) with
    | some es => pure (exprList es)
    | none => pure []
  if ← rule Dialect.truncationOptions then
    if !(← keywords ["RESTART", "IDENTITY"]) then allow ["CONTINUE", "IDENTITY"]
    dropBehavior
  onCluster
  return names ++ partition

/-! ### Altering tables -/

/-- A partition of a table. -/
def partitionExprs (r : Rules) : Parser (List Piece) := do
  return exprList (← parenthesised (list (r.expr 0)))

/-- The place of a column, if it is said. -/
def columnPosition : Parser Unit := do
  if ← rule Dialect.columnPositions then
    if !(← keyword "FIRST") then
      if ← keyword "AFTER" then
        let _ ← identifier

/-- What is added to a table. -/
def addition (r : Rules) : Parser (List Piece) := do
  if let some pieces ← tableConstraint r then
    allow ["NOT", "VALID"]
    return pieces
  ifNotExists
  let partitions ← repeated (after ["PARTITION"] (partitionExprs r))
  if !partitions.isEmpty then return partitions.flatten
  allow ["COLUMN"]
  if ← rule Dialect.conditionalColumns then ifNotExists
  let column ← columnDefinition r
  columnPosition
  return column

/-- What gets a new name. -/
def newName : Parser (List Piece) := do
  let d := (← read).dialect
  let isConstraint ← onlyIf d.constraintRenaming (keyword "CONSTRAINT")
  if !isConstraint then
    if (← oneOf ["TO", "AS"]).isSome then
      let _ ← objectName
      return []
    allow ["COLUMN"]
  let _ ← identifier
  expectKeyword "TO"
  let _ ← identifier
  return []

/-- What is removed from a table. -/
def removal (r : Rules) : Parser (List Piece) := do
  if (← keywords ["IF", "EXISTS", "PARTITION"]) || (← keyword "PARTITION") then
    return ← partitionExprs r
  if ← keyword "CONSTRAINT" then
    ifExists
    let _ ← identifier
  else if ← keywords ["PRIMARY", "KEY"] then pure ()
  else if ← keywords ["FOREIGN", "KEY"] then
    let _ ← identifier
  else if ← keyword "INDEX" then
    let _ ← identifier
  else if ← keywords ["CLUSTERING", "KEY"] then pure ()
  else
    allow ["COLUMN"]
    ifExists
    let _ ← if ← rule Dialect.droppedColumnLists then list identifier
      else do pure [← identifier]
  dropBehavior
  return []

/-- The new type of a column. -/
def newType (r : Rules) : Parser (List Piece) := do
  let _ ← typeName
  if ← rule Dialect.typeConversions then exprClause r ["USING"] else return []

/-- What is altered about a column. -/
def columnAlteration (r : Rules) : Parser (List Piece) := do
  allow ["COLUMN"]
  let _ ← identifier
  let nothing : Parser (List Piece) := return []
  let default : Parser (List Piece) := do return [.expr (← r.expr 0)]
  let found ← choose
    [(["SET", "NOT", "NULL"], nothing), (["DROP", "NOT", "NULL"], nothing),
      (["SET", "DEFAULT"], default), (["DROP", "DEFAULT"], nothing),
      (["SET", "DATA", "TYPE"], newType r), (["TYPE"], newType r), (["ADD", "GENERATED"], toEnd)]
  match found with
  | some pieces => return pieces
  | none => failHere

/-- A column that takes the place of another one, after the names. -/
def columnReplacement (r : Rules) : Parser (List Piece) := do
  let _ ← typeName
  let options ← columnOptions r
  columnPosition
  return options

/-- Triggers and rules that are switched on or off. -/
def switched : Parser (List Piece) := do
  if ← keywords ["ROW", "LEVEL", "SECURITY"] then return []
  allowOne ["ALWAYS", "REPLICA"]
  let _ ← expectOneOf ["RULE", "TRIGGER"]
  let _ ← identifier
  return []

/-- One alteration of a table. -/
def tableAlteration (r : Rules) : Parser (List Piece) := do
  let change : Parser (List Piece) := do
    allow ["COLUMN"]
    let _ ← identifier
    let _ ← identifier
    columnReplacement r
  let modification : Parser (List Piece) := do
    allow ["COLUMN"]
    let _ ← identifier
    columnReplacement r
  let oneName : Parser (List Piece) := do
    let _ ← objectName
    return []
  let security : Parser (List Piece) := do
    expectKeywords ["ROW", "LEVEL", "SECURITY"]
    return []
  let found ← choose
    [(["ADD"], addition r), (["RENAME"], newName), (["DISABLE"], switched),
      (["ENABLE"], switched), (["FORCE"], security), (["NO", "FORCE"], security),
      (["DROP"], removal r), (["CHANGE"], change), (["MODIFY"], modification),
      (["ALTER"], columnAlteration r), (["SWAP", "WITH"], oneName), (["OWNER", "TO"], oneName),
      (["CLUSTER", "BY"], partitionExprs r), (["SUSPEND", "RECLUSTER"], return []),
      (["RESUME", "RECLUSTER"], return []), (["VALIDATE", "CONSTRAINT"], oneName),
      (["SET", "TBLPROPERTIES"], optionList r), (["SET"], optionList r)]
  match found with
  | some pieces => return pieces
  | none => failHere

/-- The rest of an `ALTER TABLE`. -/
def alterTableOf (r : Rules) : Parser (List Piece) := do
  ifExists
  allow ["ONLY"]
  let name ← objectName
  onCluster
  let changes ← list (tableAlteration r)
  return .table name :: changes.flatten

/-! ### Altering other things -/

/-- The rest of an `ALTER VIEW`. -/
def alterViewOf (r : Rules) : Parser (List Piece) := do
  let name ← objectName
  let _ ← columnList
  let given ← optionsOf r ["WITH"]
  expectKeyword "AS"
  return .table name :: given.getD [] ++ [.query (← r.query)]

/-- The rest of an `ALTER INDEX`. -/
def alterIndexOf : Parser (List Piece) := do
  let _ ← objectName
  expectKeywords ["RENAME", "TO"]
  let _ ← objectName
  return []

/-- The rest of an `ALTER`. -/
def alterOf (r : Rules) : Parser (List Piece) := do
  let iceberg : Parser (List Piece) := do
    expectKeyword "TABLE"
    alterTableOf r
  let found ← choose
    [(["VIEW"], alterViewOf r), (["TYPE"], toEnd), (["TABLE"], alterTableOf r),
      (["INDEX"], alterIndexOf), (["ROLE"], toEnd), (["POLICY"], toEnd), (["CONNECTOR"], toEnd),
      (["ICEBERG"], iceberg), (["SCHEMA"], toEnd), (["USER"], toEnd), (["OPERATOR"], toEnd)]
  match found with
  | some pieces => return pieces
  | none => failHere

end Parser

end AssetFlow.Sql
