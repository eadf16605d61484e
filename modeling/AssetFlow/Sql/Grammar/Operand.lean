import AssetFlow.Sql.Grammar.Special

/-!
# Operands

An operand is a word with a meaning of its own, a literal, a name, a function, an expression in
brackets, or an operand after a sign. A word whose special form does not fit what follows is tried
as a name before it is refused.

## Main definitions

- `Parser.wordExpr`: the operand that starts with a word.
- `Parser.operand`: any operand.
-/

namespace AssetFlow.Sql

namespace Parser

/-- Words that name a moment. -/
def momentWords : List String :=
  ["CURRENT_TIMESTAMP", "CURRENT_TIME", "CURRENT_DATE", "LOCALTIME", "LOCALTIMESTAMP"]

/-- Words that name a user or catalog. -/
def sessionWords : List String :=
  ["CURRENT_CATALOG", "CURRENT_USER", "SESSION_USER", "USER"]

/-- Words that name a kind of geometric value. -/
def geometricWords : List String :=
  ["CIRCLE", "BOX", "PATH", "LINE", "LSEG", "POINT", "POLYGON"]

/-- A word that names a moment, after the word. -/
def momentOf (r : Rules) (name : Ident) : Parser Expr := do
  if ← symbol "(" then
    let (args, _) ← arguments r
    return .call ⟨[name]⟩ (.text "(" :: args ++ [.text ")"])
  return .call ⟨[name]⟩ []

/-- The expression that the word `name` with the keyword `k` introduces, or nothing if it
introduces none. -/
def reserved (r : Rules) (name : Ident) (k : String) : Parser (Option Expr) := do
  let d := (← read).dialect
  if k == "" then return none
  else if k == "NULL" || (["TRUE", "FALSE"].contains k && d.booleanLiterals) then
    unskip
    return some (← literal)
  else if sessionWords.contains k && d.sessionWords then return some (.call ⟨[name]⟩ [])
  else if momentWords.contains k then return some (← momentOf r name)
  else if k == "CASE" then return some (← caseOf r)
  else if k == "CONVERT" || (k == "TRY_CONVERT" && d.tryConvert) then
    return some (← convertOf r k)
  else if ["CAST", "TRY_CAST", "SAFE_CAST"].contains k then return some (← castOf r k)
  else if k == "EXISTS" && (!d.existsIsFunction || ["SELECT", "WITH"].contains (← keywordAt 1)) then
    return some (← existsOf r k)
  else if k == "EXTRACT" then return some (← extractOf r)
  else if k == "CEIL" || k == "FLOOR" then return some (← roundingOf r k)
  else if k == "POSITION" && (← atSymbol "(") then return some (← positionOf r name)
  else if k == "SUBSTR" || k == "SUBSTRING" then return some (← substringOf r k)
  else if k == "OVERLAY" then return some (← overlayOf r)
  else if k == "TRIM" then return some (← trimOf r)
  else if k == "INTERVAL" then return some (← intervalOf r)
  else if k == "ARRAY" && (← atSymbol "[") then
    skip
    return some (← arrayOf r k)
  else if k == "ARRAY" && d.arrayQueries && (← atSymbol "(") then
    return some (.call ⟨[name]⟩ [.text "(", .query (← parenthesised r.query), .text ")"])
  else if k == "NOT" then return some (← notOf r)
  else if k == "MATCH" && d.matchAgainst then return some (← matchOf)
  else if k == "STRUCT" && d.structLiterals then return some (← structOf r)
  else if k == "PRIOR" && (← read).connecting then
    return some (.phrase [.text "PRIOR ", .expr (← r.expr (d.strength .plus))])
  else if k == "MAP" && d.mapLiterals && (← atSymbol "\x7b") then return some (← mapOf r)
  else if k == "LAMBDA" && d.lambdas then return some (← lambdaOf r)
  else if geometricWords.contains k && d.geometricOperators then
    return some (.phrase [.text (Text.lower k ++ " "), .expr (← literal)])
  else return none

/-- A literal that may follow a word which names its character set. -/
def introducedLiteral : Parser (Option Expr) := do
  match ← peek with
  | .string style value =>
    if [StringStyle.single, .double, .hex].contains style then
      skip
      return some (.literal (renderLiteral style value))
    return none
  | _ => return none

/-- The expression that starts with a word read as a name. -/
def named (r : Rules) (name : Ident) : Parser Expr := do
  let d := (← read).dialect
  if (← atSymbol "(") && !(d.outerJoinMarks && (← atSymbols ["(", "+", ")"])) then
    return ← functionCall r ⟨[name]⟩
  if name.value.startsWith "_" then
    if let some v ← introducedLiteral then
      return .phrase [.text (name.render ++ " "), .expr v]
  if d.lambdas then
    if ← atSymbol "->" then return ← arrowLambda r name.render
    if (← peek).isWord && (← peekNth 1).token == .symbol "->" then
      return ← arrowLambda r (name.render ++ " " ++ (← typeName).spelling)
  return .column [name]

/-- Words that are never tried as names. -/
def neverNames (d : Dialect) : List String :=
  ["EXISTS", "STRUCT", "TRIM"] ++ (if d.intervalIsIdentifier then [] else ["INTERVAL"])

/-- The expression that starts with a word: first by its special meaning, then as a name. -/
def wordExpr (r : Rules) (name : Ident) (k : String) : Parser Expr := do
  match ← outcome (reserved r name k) with
  | .ok (some e) => return e
  | .ok none => named r name
  | .error e =>
    if (neverNames (← read).dialect).contains k then throw e
    match ← outcome (named r name) with
    | .ok found => return found
    | .error _ => throw e

/-- A literal of a named type, if one starts here. -/
def typedLiteral (r : Rules) : Parser (Option Expr) :=
  attempt do
    let t ← typeName
    match t.class_ with
    | .interval => intervalOf r
    | .custom => failUnplaced
    | .binary =>
      if ← rule Dialect.binaryCasts then return .cast "CAST(" (← r.expr 0) " AS BINARY)"
      else return .phrase [.text (t.spelling ++ " "), .expr (← literal)]
    | .known => return .phrase [.text (t.spelling ++ " "), .expr (← literal)]

/-- What stands in parentheses, whose opening one is taken. -/
def parenthesesOf (r : Rules) : Parser Expr := do
  if ← atQuery then
    let q ← r.query
    expectSymbol ")"
    return .phrase [.text "(", .query q, .text ")"]
  if let some e ← parenthesisedLambda r then return e
  let es ← list (r.expr 0)
  expectSymbol ")"
  match es with
  | [e] => return .nested e
  | es => return .phrase (.text "(" :: exprList es ++ [.text ")"])

/-- An operand, where the operands inside it are those of the rules. -/
def operandWith (r : Rules) : Parser Expr := do
  if let some e ← typedLiteral r then return e
  let d := (← read).dialect
  let t ← next
  match t.token with
  | .word value quote k => wordExpr r ⟨value, quote⟩ k
  | .number .. | .placeholder _ | .symbol ":" =>
    unskip
    literal
  | .string style _ =>
    if style == .escaped && !d.escapedLiterals then failAt t
    unskip
    literal
  | .symbol "[" => arrayOf r ""
  | .symbol "(" => parenthesesOf r
  | .symbol "\x7b" => bracesOf r t
  | .symbol s =>
    match d.unarySign? s with
    | some (strength, sign) =>
      return .phrase [.text sign, .expr (← r.expr (d.strength strength))]
    | none =>
      if s != "@" then failAt t
      unskip
      literal
  | _ => failAt t

/-- An operand in which operands stand inside one another at most `depth` times without an
expression between them. -/
def operandDeep (r : Rules) : (depth : Nat) → Parser Expr
  | 0 => throw .tooDeep
  | depth + 1 => operandWith { r with operand := operandDeep r depth }

/-- An operand. -/
def operand (r : Rules) : Parser Expr := do
  operandDeep r (← turns)

end Parser

end AssetFlow.Sql
