import AssetFlow.Sql.Grammar.Change

/-!
# Columns of tables

Definitions of columns and constraints on tables. Of what they say only the expressions are kept.

## Main definitions

- `Parser.optionsOf`: options with names and values.
- `Parser.columnDefinition`: a column of a table.
- `Parser.tableConstraint`: a constraint on a table.
- `Parser.tableElements`: the columns and constraints of a table.
-/

namespace AssetFlow.Sql

namespace Parser

/-! ### Parts of several definitions -/

/-- The text `IF NOT EXISTS`, if it is said. -/
def ifNotExists : Parser Unit :=
  allow ["IF", "NOT", "EXISTS"]

/-- The text `IF EXISTS`, if it is said. -/
def ifExists : Parser Unit :=
  allow ["IF", "EXISTS"]

/-- An expression between parentheses. -/
def enclosedExpr (r : Rules) : Parser (List Piece) := do
  return [.expr (← parenthesised (r.expr 0))]

/-- An option with its value. -/
def optionItem (r : Rules) : Parser (List Piece) := do
  let _ ← identifier
  expectSymbol "="
  return [.expr (← r.expr 0)]

/-- Options in parentheses. -/
def optionList (r : Rules) : Parser (List Piece) := do
  return (← parenthesised (listBefore ")" (optionItem r))).flatten

/-- Options in parentheses after keywords, if those come next. -/
def optionsOf (r : Rules) (words : List String) : Parser (Option (List Piece)) := do
  let found ← after words (optionList r)
  return match found with
  | some [] => none
  | found => found

/-- What is done to rows that refer to a changed row. -/
def referentialAction : Parser Unit := do
  for words in [["RESTRICT"], ["CASCADE"], ["SET", "NULL"], ["NO", "ACTION"], ["SET", "DEFAULT"]] do
    if ← keywords words then return
  failHere

/-- How references match and what is done when their target changes, each said once. -/
def referenceRules : Nat → List String → Parser Unit
  | 0, _ => return ()
  | n + 1, seen => do
    if ← onlyIf (!seen.contains "MATCH") (keyword "MATCH") then
      let _ ← expectOneOf ["FULL", "PARTIAL", "SIMPLE"]
      referenceRules n ("MATCH" :: seen)
    else if ← onlyIf (!seen.contains "DELETE") (keywords ["ON", "DELETE"]) then
      referentialAction
      referenceRules n ("DELETE" :: seen)
    else if ← onlyIf (!seen.contains "UPDATE") (keywords ["ON", "UPDATE"]) then
      referentialAction
      referenceRules n ("UPDATE" :: seen)

/-- When a constraint is checked, each aspect said once. -/
def checkTimes : Nat → List String → Parser Unit
  | 0, _ => return ()
  | n + 1, seen => do
    let once (name : String) (words : List String) : Parser Bool :=
      onlyIf (!seen.contains name) (keywords words)
    if (← once "DEFERRABLE" ["NOT", "DEFERRABLE"]) || (← once "DEFERRABLE" ["DEFERRABLE"]) then
      checkTimes n ("DEFERRABLE" :: seen)
    else if ← once "INITIALLY" ["INITIALLY"] then
      let _ ← expectOneOf ["DEFERRED", "IMMEDIATE"]
      checkTimes n ("INITIALLY" :: seen)
    else if (← once "ENFORCED" ["ENFORCED"]) || (← once "ENFORCED" ["NOT", "ENFORCED"]) then
      checkTimes n ("ENFORCED" :: seen)

/-- The target of a reference, after its word. -/
def referenceTarget : Parser (List Piece) := do
  let _ ← objectName
  let _ ← columnList
  referenceRules (← turns) []
  checkTimes (← turns) []
  return []

/-- A condition on rows, after its word. -/
def checkOf (r : Rules) : Parser (List Piece) := do
  let e ← enclosedExpr r
  allow ["ENFORCED"]
  allow ["NOT", "ENFORCED"]
  return e

/-- Options of a sequence, each of which may be left out. -/
def sequenceOptions : Parser Unit := do
  let number (words : List String) (between : List String) : Parser Unit := do
    if ← keywords words then
      allow between
      let _ ← signedNumber
  number ["INCREMENT"] ["BY"]
  number ["MINVALUE"] []
  allow ["NO", "MINVALUE"]
  number ["MAXVALUE"] []
  allow ["NO", "MAXVALUE"]
  number ["START"] ["WITH"]
  number ["CACHE"] []
  allow ["NO", "CYCLE"]
  allow ["CYCLE"]

/-! ### Columns -/

/-- How a column is generated, after the word `GENERATED`. -/
def generation (r : Rules) : Parser (Option (List Piece)) := do
  let identity : Parser (Option (List Piece)) := do
    if ← symbol "(" then
      sequenceOptions
      expectSymbol ")"
    return some []
  if ← keywords ["ALWAYS", "AS", "IDENTITY"] then identity
  else if ← keywords ["BY", "DEFAULT", "AS", "IDENTITY"] then identity
  else if (← keywords ["ALWAYS", "AS"]) && (← atSymbol "(") then
    let e ← enclosedExpr r
    if (← read).dialect == .postgres then expectKeyword "STORED"
    else allowOne ["STORED", "VIRTUAL"]
    return some e
  else return none

/-- Where the numbers of a numbered column start and how far they are apart, if it is said. -/
def numbering : Parser (List Piece) := do
  if ← symbol "(" then
    let _ ← signedNumber
    expectSymbol ","
    let _ ← signedNumber
    expectSymbol ")"
  return []

/-- The value of a column that is kept nowhere, if it has one. -/
def ephemeral (r : Rules) : Parser (List Piece) := do
  match ← peek with
  | .symbol "," | .symbol ")" => return []
  | _ => return [.expr (← r.expr 0)]

/-- The default of a column. -/
def defaultValue (r : Rules) : Parser (List Piece) := do
  return [.expr (← if ← atSymbol "(" then r.operand else r.expr 0)]

/-- An option of a column that every dialect knows, if one comes next. -/
def commonColumnOption (r : Rules) : Parser (Option (List Piece)) := do
  let nothing : Parser (List Piece) := return []
  let name : Parser (List Piece) := do
    let _ ← objectName
    return []
  let key : Parser (List Piece) := do
    checkTimes (← turns) []
    return []
  let comment : Parser (List Piece) := do
    let _ ← literalText
    return []
  choose
    [(["CHARACTER", "SET"], name), (["COLLATE"], name), (["NOT", "NULL"], nothing),
      (["COMMENT"], comment), (["NULL"], nothing), (["DEFAULT"], defaultValue r),
      (["PRIMARY", "KEY"], key), (["UNIQUE"], key), (["REFERENCES"], referenceTarget),
      (["CHECK"], checkOf r)]

/-- An option of a column that only some dialects know, if one comes next. -/
def dialectColumnOption (r : Rules) : Parser (Option (List Piece)) := do
  let d := (← read).dialect
  let nothing : Parser (List Piece) := return []
  let e : Parser (List Piece) := do return [.expr (← r.expr 0)]
  let derived : Parser (List Piece) := do
    let e ← enclosedExpr r
    allowOne ["STORED", "VIRTUAL"]
    return e
  choose <|
    (if d.computedColumns then
      [(["MATERIALIZED"], e), (["ALIAS"], e), (["EPHEMERAL"], ephemeral r)] else []) ++
    (if d.numberedColumns then
      [(["AUTO_INCREMENT"], nothing), (["ON", "UPDATE"], e), (["SRID"], e)] else []) ++
    (if d.autoincrement then [(["AUTOINCREMENT"], numbering)] else []) ++
    (if d.identityColumns then [(["IDENTITY"], numbering)] else []) ++
    (if d.columnOptions then [(["OPTIONS"], optionList r)] else []) ++
    (if d.derivedColumns then [(["AS"], derived)] else [])

/-- An option of a column, if one comes next. -/
def columnOption (r : Rules) : Parser (Option (List Piece)) := do
  let named ← keyword "CONSTRAINT"
  if named then
    let _ ← identifier
  if let some found ← commonColumnOption r then return some found
  if let some found ← dialectColumnOption r then return some found
  if ← keyword "GENERATED" then return ← generation r
  if named then failHere
  return none

/-- Options of a column. -/
def columnOptions (r : Rules) : Parser (List Piece) := do
  return (← repeated (columnOption r)).flatten

/-- A column of a table. -/
def columnDefinition (r : Rules) : Parser (List Piece) := do
  let _ ← identifier
  let _ ← typeName
  columnOptions r

/-! ### Constraints -/

/-- The name of an index, if it has one. -/
def optionalIdentifier : Parser Unit := do
  if (← peek).isWord then skip

/-- How an index is kept, if it is said. -/
def indexMethod : Parser Unit := do
  if ← keyword "USING" then
    let _ ← identifier

/-- The columns of an index. -/
def indexColumns (r : Rules) : Parser (List Piece) := do
  let columns ← parenthesised <| list do
    let e ← r.expr 0
    if !(["ASC", "DESC", "NULLS", "WITH"].contains (← keywordAt 0)) then
      let _ ← attempt objectName
    let _ ← orderOptions
    return [Piece.expr e]
  return columns.flatten

/-- What an index is used for besides, if it is said. -/
def indexOptions : Parser Unit := do
  let _ ← repeated do
    if ← keyword "USING" then
      let _ ← identifier
      return some ()
    if ← keyword "COMMENT" then
      let _ ← literalText
      return some ()
    return none

/-- The name, columns and options of an index over a table. -/
def indexBody (r : Rules) : Parser (List Piece) := do
  if (← keywordAt 0) != "USING" then optionalIdentifier
  indexMethod
  let columns ← indexColumns r
  indexOptions
  return columns

/-- A key of a table, after its words. -/
def keyBody (r : Rules) : Parser (List Piece) := do
  let columns ← indexBody r
  checkTimes (← turns) []
  return columns

/-- A key that is unique. -/
def uniqueKey (r : Rules) : Parser (List Piece) := do
  if (← oneOf ["KEY", "INDEX"]).isSome && !(← rule Dialect.indexConstraints) then failHere
  if ← keyword "NULLS" then
    allow ["NOT"]
    expectKeyword "DISTINCT"
  keyBody r

/-- A key that refers to another table. -/
def foreignKey : Parser (List Piece) := do
  expectKeyword "KEY"
  optionalIdentifier
  let _ ← identifierList
  expectKeyword "REFERENCES"
  referenceTarget

/-- An index of a special kind, after its word. -/
def specialIndex (r : Rules) : Parser (List Piece) := do
  allowOne ["INDEX", "KEY"]
  optionalIdentifier
  indexColumns r

/-- The name of a constraint after its word, and whether there is one. -/
def constraintName : Parser Bool := do
  if !(← keyword "CONSTRAINT") then return false
  let _ ← identifier
  return true

/-- A constraint on a table, if one comes next. -/
def tableConstraint (r : Rules) : Parser (Option (List Piece)) := do
  let named ← constraintName
  let indexes := (← rule Dialect.indexConstraints) && !named
  let primary : Parser (List Piece) := do
    expectKeyword "KEY"
    keyBody r
  let found ← choose <|
    [(["UNIQUE"], uniqueKey r), (["PRIMARY"], primary), (["FOREIGN"], foreignKey),
      (["CHECK"], checkOf r)] ++
    (if indexes then
      [(["INDEX"], indexBody r), (["KEY"], indexBody r), (["FULLTEXT"], specialIndex r),
        (["SPATIAL"], specialIndex r)] else [])
  if found.isNone && named then failHere
  return found

/-- The columns and constraints of a table after the opening parenthesis, with the closing one. -/
def elementsUpTo (r : Rules) : Nat → Parser (List Piece)
  | 0 => return []
  | n + 1 => do
    let element ← match ← tableConstraint r with
      | some pieces => pure pieces
      | none => if (← peek).isWord then columnDefinition r else failHere
    let comma ← symbol ","
    let closes ← atSymbol ")"
    if !comma && !closes then failHere
    if closes && (!comma || (← rule Dialect.columnTrailingCommas)) then
      skip
      return element
    return element ++ (← elementsUpTo r n)

/-- The columns and constraints of a table, if any are given. -/
def tableElements (r : Rules) : Parser (List Piece) := do
  if !(← symbol "(") then return []
  if ← symbol ")" then return []
  elementsUpTo r (← turns)

end Parser

end AssetFlow.Sql
