import AssetFlow.Sql.Grammar.Operand

/-!
# Operators

Access paths into operands, and infix operators, which join operands by their strength.

## Main definitions

- `Step`, `accessPath`: access paths.
- `Parser.pathExpr`: an operand and the access path after it.
- `Parser.expression`: operands joined by operators that bind more tightly than a strength.
-/

namespace AssetFlow.Sql

/-! ### Access paths -/

/-- A step of an access path. -/
inductive Step
  | field (e : Expr)
  | element (pieces : List Piece)

namespace Step

/-- The pieces of a step. -/
def pieces : Step → List Piece
  | field e => [.text ".", .expr e]
  | element pieces => pieces

/-- The identifier of a field that is one. -/
def ident? : Step → Option Ident
  | field (.column [i]) => some i
  | _ => none

end Step

/-- The identifiers of a path that is made of identifiers only. -/
def pathIdents? (root : Expr) (steps : List Step) : Option (List Ident) :=
  match root with
  | .column [i] => (steps.mapM Step.ident?).map (i :: ·)
  | _ => none

/-- The expression of a root and the steps after it. Identifiers make up a column, and identifiers
before a function qualify the function. -/
def accessPath (root : Expr) (steps : List Step) : Expr :=
  if steps.isEmpty then root
  else match pathIdents? root steps with
  | some path => .column path
  | none =>
    match pathIdents? root steps.dropLast, steps.getLast? with
    | some path, some (.field (.call name rest)) => .call ⟨path ++ name.parts⟩ rest
    | _, _ => .access root (steps.flatMap Step.pieces)

namespace Parser

/-- The inside of brackets after an expression, and the closing one. -/
def subscript (r : Rules) : Parser (List Piece) := do
  let bound : Parser (List Piece) := do
    return [.expr (← r.expr ((← read).dialect.strength .colon))]
  let lower ← if ← symbol ":" then pure none else some <$> bound
  if ← symbol "]" then
    match lower with
    | some e => return .text "[" :: e ++ [.text "]"]
    | none => return [.text "[:]"]
  if lower.isSome then expectSymbol ":"
  let start := .text "[" :: lower.getD []
  if ← symbol "]" then return start ++ [.text ":]"]
  let upper ← bound
  if ← symbol "]" then return start ++ .text ":" :: upper ++ [.text "]"]
  expectSymbol ":"
  if ← symbol "]" then return start ++ .text ":" :: upper ++ [.text "]"]
  let stride ← r.expr 0
  expectSymbol "]"
  return start ++ .text ":" :: upper ++ [.text ":", .expr stride, .text "]"]

/-- The steps that an expression after a period adds to a path, if it may stand there. -/
def fieldSteps : Expr → Option (List Step)
  | .access root steps => some [.field root, .element steps]
  | .column path => some (path.map fun i => .field (.column [i]))
  | .literal s => some [.field (.literal s)]
  | .call name rest => some [.field (.call name rest)]
  | _ => none

/-- The steps of a path after a period that is taken. -/
def fieldOf (r : Rules) : Parser (List Step) := do
  match ← peek with
  | .string .single value =>
    skip
    return [.field (.column [⟨value, some '\''⟩])]
  | .placeholder text =>
    skip
    return [.field (.column [⟨text, none⟩])]
  | _ =>
    let found ← attempt do
      match fieldSteps (← r.expr ((← read).dialect.strength .period)) with
      | some steps => return steps
      | none => failUnplaced
    match found with
    | some steps => return steps
    | none => return [.field (.column [← identifier])]

/-- The next steps of an access path, if any come next. -/
def accessStep (r : Rules) : Parser (Option (List Step)) := do
  if (← atSymbol ".") && (← peekNth 1).token != .symbol "*" then
    skip
    return some (← fieldOf r)
  if !(← rule Dialect.bracketPaths) && (← atSymbol "[") then
    skip
    return some [.element (← subscript r)]
  return none

/-- An operand and the access path after it. A path of identifiers only may end in a wildcard or
be marked as a side of an outer join. -/
def pathExpr (r : Rules) : Parser Expr := do
  let d := (← read).dialect
  let root ← r.operand
  let steps := (← repeated (accessStep r)).flatten
  let idents := pathIdents? root steps
  if ← onlyIf d.wildcardOperands (symbols [".", "*"]) then
    match idents with
    | some path => return .phrase [.text ((ObjectName.mk path).render ++ ".*")]
    | none => failHere
  if d.outerJoinMarks && (← atSymbols ["(", "+", ")"]) then
    if idents.isNone then failBefore
    skipMany 3
    return .phrase [.expr (accessPath root steps), .text " (+)"]
  return accessPath root steps

/-! ### Infix operators -/

/-- How tightly the colon that comes next binds. -/
def colonStrength : Parser Nat := do
  let d := (← read).dialect
  if d.tightColons then return d.strength .convert
  if d.bareColons then return 0
  match (← peekNth 1).token with
  | .string .single _ | .number .. => return 0
  | _ => return d.strength .colon

/-- How tightly the operator that comes next binds; zero if none comes next. -/
def nextStrength : Parser Nat := do
  let d := (← read).dialect
  let byClass (s : Option Strength) : Nat := (s.map d.strength).getD 0
  match ← peek with
  | .word _ _ k =>
    if k == "AT" then
      let zone := (← keywordAt 1) == "TIME" && (← keywordAt 2) == "ZONE"
      return byClass (if zone then some .timeZone else none)
    else if k == "NOT" then return byClass (negatableWords.lookup (← keywordAt 1))
    else if k == "NOTNULL" && d.notNullOperators then return byClass (some .is)
    else if k == "COLLATE" && d.infixCollation then return byClass (some .collate)
    else return byClass (infixWords.lookup k)
  | .customOperator _ => return byClass (some .other)
  | .symbol ":" => colonStrength
  | .symbol s => return byClass (d.symbolStrength? s)
  | _ => return 0

/-- The right side of the operator `op`, which is the token `t`. -/
def rightSide (r : Rules) (left : Expr) (op : String) (t : LocatedToken) (strength : Nat) :
    Parser Expr := do
  match ← oneOf ["ANY", "ALL", "SOME"] with
  | some word =>
    expectSymbol "("
    let right ← if ← atQuery then do
        unskip
        pure [.expr (← r.expr strength)]
      else do
        let e ← r.expr strength
        expectSymbol ")"
        pure [.text "(", .expr e, .text ")"]
    if !quantifiableOperators.contains op then throw (.unexpected t.start)
    return .phrase (.expr left :: .text (" " ++ op ++ " " ++ word) :: right)
  | none =>
    let right ← r.expr strength
    return .phrase [.expr left, .text (" " ++ op ++ " "), .expr right]

/-- The rest of an `IS`. -/
def isOf (r : Rules) (left : Expr) : Parser Expr := do
  let negated ← flag ["NOT"] "NOT "
  let simple (s : String) : Parser Expr :=
    return .phrase [.expr left, .text (" IS " ++ negated ++ s)]
  match ← oneOf ["NULL", "TRUE", "FALSE", "UNKNOWN"] with
  | some word => simple word
  | none =>
    if ← keywords ["DISTINCT", "FROM"] then
      let right ← r.expr 0
      return .phrase [.expr left, .text (" IS " ++ negated ++ "DISTINCT FROM "), .expr right]
    let form ← oneOf ["NFC", "NFD", "NFKC", "NFKD"]
    expectKeyword "NORMALIZED"
    simple ((match form with | some f => f ++ " " | none => "") ++ "NORMALIZED")

/-- The rest of an `IN`. -/
def inOf (r : Rules) (left : Expr) (negated : String) : Parser Expr := do
  if ← keyword "UNNEST" then
    let e ← parenthesised (r.expr 0)
    return .phrase [.expr left, .text (" " ++ negated ++ "IN UNNEST("), .expr e, .text ")"]
  expectSymbol "("
  let inside ← match ← attempt r.query with
    | some q => pure [.query q]
    | none => pure (exprList (← list (r.expr 0)))
  expectSymbol ")"
  return .phrase (.expr left :: .text (" " ++ negated ++ "IN (") :: inside ++ [.text ")"])

/-- The rest of a `BETWEEN`. -/
def betweenOf (r : Rules) (left : Expr) (negated : String) : Parser Expr := do
  let between := (← read).dialect.strength .between
  let low ← r.expr between
  expectKeyword "AND"
  let high ← r.expr between
  return .phrase [.expr left, .text (" " ++ negated ++ "BETWEEN "), .expr low, .text " AND ",
    .expr high]

/-- The rest of a comparison with a pattern by the operator `op`. -/
def patternOf (r : Rules) (left : Expr) (op : String) : Parser Expr := do
  let any ← if op.endsWith "LIKE" then flag ["ANY"] "ANY " else pure ""
  let p ← r.expr ((← read).dialect.strength .like)
  let escape ← match ← after ["ESCAPE"] literal with
    | some e => pure [.text " ESCAPE ", .expr e]
    | none => pure []
  return .phrase (.expr left :: .text (" " ++ op ++ " " ++ any) :: .expr p :: escape)

/-- A predicate that may be negated, from its word on. The words of regular expressions and of
null are taken one by one. -/
def predicateOf (r : Rules) (left : Expr) : Parser Expr := do
  let no ← flag ["NOT"] "NOT "
  let regexp ← keyword "REGEXP"
  let rlike ← keyword "RLIKE"
  let isNull ← keyword "NULL"
  if regexp || rlike then
    let p ← r.expr ((← read).dialect.strength .like)
    let word := if regexp then "REGEXP " else "RLIKE "
    return .phrase [.expr left, .text (" " ++ no ++ word), .expr p]
  if no != "" && isNull then return .phrase [.expr left, .text " IS NOT NULL"]
  if ← keyword "IN" then inOf r left no
  else if ← keyword "BETWEEN" then betweenOf r left no
  else if ← keyword "LIKE" then patternOf r left (no ++ "LIKE")
  else if ← keyword "ILIKE" then patternOf r left (no ++ "ILIKE")
  else if ← keywords ["SIMILAR", "TO"] then patternOf r left (no ++ "SIMILAR TO")
  else failHere

/-- The key of an object in a path into a document. -/
def documentKey : Parser String := do
  let t ← next
  match t.token with
  | .word value none _ => return value
  | .word value (some '"') _ | .string .double value => return inQuotes '"' value
  | _ => failAt t

/-- A key in brackets in a path into a document, whose opening bracket is taken. -/
def documentElement (r : Rules) (mark : String) : Parser (List Piece) := do
  let key ← starred r
  expectSymbol "]"
  return .text (mark ++ "[") :: key.pieces ++ [.text "]"]

/-- One element of a path into a document, if one comes next. -/
def documentStep (r : Rules) (first : Bool) : Parser (Option (List Piece)) := do
  if ← onlyIf first (symbols [":", "["]) then return some (← documentElement r ":")
  if ← onlyIf first (symbol ":") then return some [.text (":" ++ (← documentKey))]
  if ← onlyIf (!first) (symbol ".") then return some [.text ("." ++ (← documentKey))]
  if ← symbol "[" then return some (← documentElement r "")
  return none

/-- A path into a document. -/
def documentPath (r : Rules) : Parser (List Piece) := do
  match ← documentStep r true with
  | none => return []
  | some start => return start ++ (← repeated (documentStep r false)).flatten

/-- The name of an operator in parentheses. -/
def operatorName : Parser String := do
  expectSymbol "("
  let part : Parser String := do
    match (← next).token with
    | .symbol s | .customOperator s => return s
    | .word v _ _ => return v
    | _ => return ""
  let first ← part
  let more ← repeated do
    if ← symbol "." then return some ("." ++ (← part)) else return none
  expectSymbol ")"
  return "OPERATOR(" ++ first ++ String.join more ++ ")"

/-- The expression that the infix operator of the word `k`, which is the token `t`, makes of
`left`. -/
def infixWord (r : Rules) (left : Expr) (t : LocatedToken) (k : String) (strength : Nat) :
    Parser Expr := do
  let d := (← read).dialect
  if ["AND", "OR", "XOR", "OVERLAPS"].contains k then rightSide r left k t strength
  else if k == "DIV" && d.divisionWords then
    return .phrase [.expr left, .text " DIV ", .expr (← r.expr 0)]
  else if k == "IS" then isOf r left
  else if k == "NOTNULL" then return .phrase [.expr left, .text " IS NOT NULL"]
  else if k == "AT" then
    expectKeywords ["TIME", "ZONE"]
    return .phrase [.expr left, .text " AT TIME ZONE ", .expr (← r.expr strength)]
  else if k == "COLLATE" then
    return .phrase [.expr left, .text (" COLLATE " ++ (← objectName).render)]
  else if ["NOT", "IN", "BETWEEN", "LIKE", "ILIKE", "SIMILAR", "REGEXP", "RLIKE"].contains k then
    unskip
    predicateOf r left
  else if k == "MEMBER" then
    expectKeyword "OF"
    let e ← parenthesised (r.expr 0)
    return .phrase [.expr left, .text " MEMBER OF(", .expr e, .text ")"]
  else if k == "OPERATOR" && d.namedOperators then
    rightSide r left (← operatorName) t strength
  else failAt t

/-- The expression that the next infix operator makes of `left`; `strength` is how tightly it
binds. -/
def infixed (r : Rules) (left : Expr) (strength : Nat) : Parser Expr := do
  let d := (← read).dialect
  let t ← next
  match t.token with
  | .customOperator op => rightSide r left op t strength
  | .word _ _ k => infixWord r left t k strength
  | .symbol s =>
    match d.infixSpelling? s with
    | some op => rightSide r left op t strength
    | none =>
      if s == "::" then return .cast "" left ("::" ++ (← typeName).spelling)
      else if s == ":" || (s == "[" && d.bracketPaths) then
        unskip
        return .phrase (.expr left :: (← documentPath r))
      else if s == "!" && d.rootOperators then return .phrase [.expr left, .text "!"]
      else failAt t
  | _ => failAt t

/-- An expression and the collation after it, if one is given. -/
def collated (e : Expr) : Parser Expr := do
  match ← after ["COLLATE"] objectName with
  | some name => return .phrase [.expr e, .text (" COLLATE " ++ name.render)]
  | none => return e

/-- Operands joined by operators that bind more tightly than `strength`. -/
def expression (r : Rules) (strength : Nat) : Parser Expr := do
  let first ← collated (← pathExpr r)
  grow
    (fun left => do
      let ahead ← nextStrength
      if strength ≥ ahead then return none
      return some (← infixed r left ahead))
    first

end Parser

end AssetFlow.Sql
