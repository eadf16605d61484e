import AssetFlow.Sql.Grammar.Operator.Strength
import AssetFlow.Sql.Grammar.Function

/-!
# Special forms

Functions and conversions whose arguments have a grammar of their own, anonymous functions, and
records. Each parser reads what follows the word that introduces the form.

## Main definitions

- `Parser.caseOf`, `Parser.castOf`, `Parser.extractOf` and their companions.
- `Parser.lambdaOf`, `Parser.arrowLambda`: anonymous functions.
- `Parser.bracesOf`: what stands in braces.
-/

namespace AssetFlow.Sql

namespace Parser

/-! ### Conditions and queries -/

/-- The rest of a `CASE`. -/
def caseOf (r : Rules) : Parser Expr := do
  let subject ← if ← keyword "WHEN" then pure [] else do
    let e ← r.expr 0
    expectKeyword "WHEN"
    pure [.text " ", .expr e]
  let branch : Parser (List Piece) := do
    let c ← r.expr 0
    expectKeyword "THEN"
    let v ← r.expr 0
    return [.text " WHEN ", .expr c, .text " THEN ", .expr v]
  let first ← branch
  let more ← repeated (after ["WHEN"] branch)
  let otherwise ← exprClause r ["ELSE"]
  expectKeyword "END"
  return .phrase (.text "CASE" :: subject ++ first ++ more.flatten ++ otherwise ++ [.text " END"])

/-- The rest of an `EXISTS`. -/
def existsOf (r : Rules) (word : String) : Parser Expr := do
  let q ← parenthesised r.query
  return .phrase [.text (word ++ " ("), .query q, .text ")"]

/-- The rest of a `NOT`. -/
def notOf (r : Rules) : Parser Expr := do
  if ← keyword "EXISTS" then existsOf r "NOT EXISTS"
  else return .phrase [.text "NOT ", .expr (← r.expr ((← read).dialect.strength .not))]

/-! ### Conversions -/

/-- The format of a conversion, if it is given. -/
def castFormat : Parser String := do
  if !(← keyword "FORMAT") then return ""
  let f ← literal
  match ← after ["AT", "TIME", "ZONE"] literal with
  | some zone => return " FORMAT " ++ f.render ++ " AT TIME ZONE " ++ zone.render
  | none => return " FORMAT " ++ f.render

/-- The rest of a conversion written with the word `word`. -/
def castOf (r : Rules) (word : String) : Parser Expr := do
  expectSymbol "("
  let e ← r.expr 0
  expectKeyword "AS"
  let t ← typeName
  let array ← flag ["ARRAY"] " ARRAY"
  let format ← castFormat
  expectSymbol ")"
  return .cast (word ++ "(") e (" AS " ++ t.spelling ++ array ++ format ++ ")")

/-- The rest of a `CONVERT` that names its type first. -/
def convertTo (r : Rules) (word : String) : Parser Expr := do
  expectSymbol "("
  let t ← typeName
  expectSymbol ","
  let e ← r.expr 0
  let styles ← if ← symbol "," then pure (.text ", " :: exprList (← list (r.expr 0)))
    else pure []
  expectSymbol ")"
  return .phrase (.text (word ++ "(" ++ t.spelling ++ ", ") :: .expr e :: styles ++ [.text ")"])

/-- The rest of a `CONVERT`. -/
def convertOf (r : Rules) (word : String) : Parser Expr := do
  if ← rule Dialect.convertTypeFirst then return ← convertTo r word
  expectSymbol "("
  let e ← r.expr 0
  let target ← if ← keyword "USING" then pure (" USING " ++ (← objectName).render)
    else do
      expectSymbol ","
      let t ← typeName
      match ← after ["CHARACTER", "SET"] objectName with
      | some charset => pure (", " ++ t.spelling ++ " CHARACTER SET " ++ charset.render)
      | none => pure (", " ++ t.spelling)
  expectSymbol ")"
  return .phrase [.text (word ++ "("), .expr e, .text (target ++ ")")]

/-! ### Functions with a grammar of their own -/

/-- The rest of an `EXTRACT`. -/
def extractOf (r : Rules) : Parser Expr := do
  expectSymbol "("
  let field ← dateField
  let between ← if ← keyword "FROM" then pure " FROM "
    else if (← rule Dialect.commaExtract) && (← atSymbol ",") then do
      skip
      pure ", "
    else failUnplaced
  let e ← r.expr 0
  expectSymbol ")"
  return .phrase [.text ("EXTRACT(" ++ field ++ between), .expr e, .text ")"]

/-- The rest of a rounding written with the word `word`. -/
def roundingOf (r : Rules) (word : String) : Parser Expr := do
  expectSymbol "("
  let e ← r.expr 0
  let scale ← if ← keyword "TO" then pure (" TO " ++ (← dateField))
    else if ← symbol "," then do
      let t ← peekNth 0
      let v ← literal
      match t.token with
      | .number .. => pure (", " ++ v.render)
      | _ => failUnplaced
    else pure ""
  expectSymbol ")"
  return .phrase [.text (word ++ "("), .expr e, .text (scale ++ ")")]

/-- The rest of a `POSITION`, which may also be an ordinary function. -/
def positionOf (r : Rules) (name : Ident) : Parser Expr := do
  let form ← attempt do
    expectSymbol "("
    let what ← r.expr ((← read).dialect.strength .between)
    expectKeyword "IN"
    let e ← r.expr 0
    expectSymbol ")"
    return Expr.phrase [.text "POSITION(", .expr what, .text " IN ", .expr e, .text ")"]
  match form with
  | some e => return e
  | none => functionCall r ⟨[name]⟩

/-- The rest of a `SUBSTRING` written with the word `word`. -/
def substringOf (r : Rules) (word : String) : Parser Expr := do
  expectSymbol "("
  let e ← r.expr 0
  let comma ← symbol ","
  let fromWord ← if comma then pure false else keyword "FROM"
  let start ← if comma || fromWord then
      pure [.text (if comma then ", " else " FROM "), .expr (← r.expr 0)]
    else pure []
  let forWord ← keyword "FOR"
  let forComma ← if forWord then pure false else symbol ","
  let count ← if forWord || forComma then
      pure [.text (if comma then ", " else " FOR "), .expr (← r.expr 0)]
    else pure []
  expectSymbol ")"
  return .phrase (.text (word ++ "(") :: .expr e :: start ++ count ++ [.text ")"])

/-- The rest of an `OVERLAY`. -/
def overlayOf (r : Rules) : Parser Expr := do
  expectSymbol "("
  let e ← r.expr 0
  expectKeyword "PLACING"
  let what ← r.expr 0
  expectKeyword "FROM"
  let start ← r.expr 0
  let count ← exprClause r ["FOR"]
  expectSymbol ")"
  return .phrase <| [.text "OVERLAY(", .expr e, .text " PLACING ", .expr what, .text " FROM ",
    .expr start] ++ count ++ [.text ")"]

/-- The rest of a `TRIM`. -/
def trimOf (r : Rules) : Parser Expr := do
  expectSymbol "("
  let side := match ← oneOf ["BOTH", "LEADING", "TRAILING"] with
    | some s => s ++ " "
    | none => ""
  let e ← r.expr 0
  if ← keyword "FROM" then
    let whole ← r.expr 0
    expectSymbol ")"
    return .phrase [.text ("TRIM(" ++ side), .expr e, .text " FROM ", .expr whole, .text ")"]
  if (← rule Dialect.commaTrim) && (← atSymbol ",") then
    skip
    let characters ← list (r.expr 0)
    expectSymbol ")"
    return .phrase (.text "TRIM(" :: .expr e :: .text ", " :: exprList characters ++ [.text ")"])
  expectSymbol ")"
  return .phrase [.text ("TRIM(" ++ side), .expr e, .text ")"]

/-- The rest of a `MATCH` that searches text. -/
def matchOf : Parser Expr := do
  let columns ← nameList
  expectKeyword "AGAINST"
  expectSymbol "("
  let v ← literal
  let expansion ← pure ["WITH", "QUERY", "EXPANSION"]
  let mode ← if ← keywords ["IN", "NATURAL", "LANGUAGE", "MODE"] then
      pure (" IN NATURAL LANGUAGE MODE" ++ (← flag expansion " WITH QUERY EXPANSION"))
    else if ← keywords ["IN", "BOOLEAN", "MODE"] then pure " IN BOOLEAN MODE"
    else flag expansion " WITH QUERY EXPANSION"
  expectSymbol ")"
  return .phrase [.text ("MATCH (" ++ commaSeparated (columns.map ObjectName.render) ++
    ") AGAINST ("), .expr v, .text (mode ++ ")")]

/-! ### Arrays and records -/

/-- The rest of an array in brackets. -/
def arrayOf (r : Rules) (word : String) : Parser Expr := do
  let items ← listBefore "]" (r.expr 0)
  expectSymbol "]"
  return .phrase (.text (word ++ "[") :: exprList items ++ [.text "]"])

/-- The spelling of the word `STRUCT` with the types of its fields, and whether there are any. -/
def structHead : Parser (String × Bool) := do
  if !(← symbol "<") then return ("STRUCT", false)
  let (fields, pending) ← angleFields (typeNameDeep (← turns)) (← turns)
  if ← closeAngle pending then failHere
  return ("STRUCT<" ++ commaSeparated fields ++ ">", true)

/-- The rest of a `STRUCT`. -/
def structOf (r : Rules) : Parser Expr := do
  let (head, typed) ← structHead
  let values ← parenthesised <| list do
    let e ← r.expr 0
    if ← keyword "AS" then
      if typed then failHere
      return [Piece.expr e, .text (" AS " ++ (← identifier).render)]
    return [.expr e]
  return .phrase (.text (head ++ "(") :: separated ", " values ++ [.text ")"])

/-- Fields in braces, whose opening one is taken: what `key` reads, a colon, and an expression. -/
def fieldsOf (r : Rules) (key : Parser Piece) : Parser (List Piece) := do
  let fields ← listBefore "\x7d" do
    let k ← key
    expectSymbol ":"
    return [k, .text ": ", .expr (← r.expr 0)]
  expectSymbol "\x7d"
  return .text "\x7b" :: separated ", " fields ++ [.text "\x7d"]

/-- The rest of a `MAP` in braces. -/
def mapOf (r : Rules) : Parser Expr := do
  expectSymbol "\x7b"
  let fields ← fieldsOf r (Piece.expr <$> r.expr 0)
  return .phrase (.text "MAP " :: fields)

/-- A function in braces after the word `FN`. -/
def bracedCall (r : Rules) : Parser Expr := do
  expectKeyword "FN"
  let call ← functionCall r (← objectName)
  return .phrase [.text "\x7bfn ", .expr call, .text "\x7d"]

/-- A date or time in braces after a mark that says which it is. -/
def bracedDate : Parser Expr := do
  let t ← next
  match t.token with
  | .word mark none _ =>
    if ["d", "t", "ts"].contains mark then
      return .phrase [.text ("\x7b" ++ mark ++ " "), .expr (← literal), .text "\x7d"]
    failAt t
  | _ => failAt t

/-- What stands in braces, whose opening one is the token `start`. -/
def bracesOf (r : Rules) (start : LocatedToken) : Parser Expr := do
  let braced ← match ← attempt (bracedCall r) with
    | some e => pure (some e)
    | none => attempt bracedDate
  match braced with
  | some e =>
    expectSymbol "\x7d"
    return e
  | none =>
    if ← rule Dialect.braceRecords then
      return .phrase (← fieldsOf r (do return .text (← identifier).render))
    failAt start

/-! ### Anonymous functions -/

/-- A parameter of an anonymous function, which may have a type. -/
def lambdaParameter : Parser String := do
  let name ← identifier
  let type ← if (← peek).isWord then attempt typeName else pure none
  match type with
  | some t => return name.render ++ " " ++ t.spelling
  | none => return name.render

/-- Parameters with commas between them. -/
def lambdaParameters : Parser String := do
  return commaSeparated (← list lambdaParameter)

/-- The rest of an anonymous function introduced by the word `LAMBDA`. -/
def lambdaOf (r : Rules) : Parser Expr := do
  let parameters ← if ← atSymbol "(" then parenthesised lambdaParameters else lambdaParameters
  expectSymbol ":"
  return .phrase [.text ("lambda " ++ parameters ++ " : "), .expr (← r.expr 0)]

/-- The arrow and the body of an anonymous function after its parameters. -/
def arrowLambda (r : Rules) (parameters : String) : Parser Expr := do
  expectSymbol "->"
  return .phrase [.text (parameters ++ " -> "), .expr (← r.expr 0)]

/-- Parameters in parentheses and the body of an anonymous function, after the opening
parenthesis, if there is one. -/
def parenthesisedLambda (r : Rules) : Parser (Option Expr) := do
  if !(← rule Dialect.lambdas) then return none
  attempt do
    let parameters ← lambdaParameters
    expectSymbol ")"
    arrowLambda r ("(" ++ parameters ++ ")")

end Parser

end AssetFlow.Sql
