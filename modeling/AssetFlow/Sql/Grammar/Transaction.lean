import AssetFlow.Sql.Grammar.Create

/-!
# Transactions and blocks of statements

Statements that start and end transactions, and statements made up of others.

## Main definitions

- `Parser.transactionStatement`: transactions by their first word.
- `Parser.blockStatement`: statements made up of others, by their first word.
-/

namespace AssetFlow.Sql

namespace Parser

/-! ### Transactions -/

/-- How strictly a transaction is isolated. -/
def isolationLevel : Parser Unit := do
  for words in [["READ", "UNCOMMITTED"], ["READ", "COMMITTED"], ["REPEATABLE", "READ"],
      ["SERIALIZABLE"], ["SNAPSHOT"]] do
    if ← keywords words then return
  failHere

/-- The modes of a transaction. A comma may follow each, and then another mode has to come. -/
def transactionModes : Nat → (required : Bool) → Parser Unit
  | 0, _ => return ()
  | n + 1, required => do
    if ← keywords ["ISOLATION", "LEVEL"] then
      isolationLevel
      transactionModes n (← symbol ",")
    else if (← keywords ["READ", "ONLY"]) || (← keywords ["READ", "WRITE"]) then
      transactionModes n (← symbol ",")
    else if required then failHere

/-- Whether another transaction follows at once, if it is said. -/
def chaining : Parser Unit := do
  allowOne ["TRANSACTION", "WORK", "TRAN"]
  if ← keyword "AND" then
    allow ["NO"]
    expectKeyword "CHAIN"

/-- The rest of a plain `BEGIN`. -/
def beginOf : Parser Unit := do
  if ← rule Dialect.transactionModifiers then
    allowOne ["DEFERRED", "IMMEDIATE", "EXCLUSIVE", "TRY", "CATCH"]
  allowOne ["TRANSACTION", "WORK", "TRAN"]
  transactionModes (← turns) false

/-- The rest of an `END`. -/
def endOf : Parser Unit := do
  if ← rule Dialect.transactionModifiers then allowOne ["TRY", "CATCH"]
  chaining

/-- The rest of a `ROLLBACK`. -/
def rollbackOf : Parser Unit := do
  chaining
  if ← keyword "TO" then
    allow ["SAVEPOINT"]
    let _ ← identifier

/-- The rest of the statement about transactions that starts with the keyword `k`, if it is one. -/
def transactionStatement (k : String) : Option (Parser Unit) :=
  match k with
  | "BEGIN" => some beginOf
  | "START" => some do
    expectKeyword "TRANSACTION"
    transactionModes (← turns) false
  | "END" => some endOf
  | "COMMIT" => some chaining
  | "ROLLBACK" => some rollbackOf
  | "SAVEPOINT" => some do
    let _ ← identifier
  | "RELEASE" => some do
    allow ["SAVEPOINT"]
    let _ ← identifier
  | _ => none

/-! ### Blocks -/

/-- Statements that each end in a semicolon, up to one of the words `ends`. -/
def statementsUpTo (r : Rules) (ends : List String) : Nat → Parser (List Piece)
  | 0 => return []
  | n + 1 => do
    let t ← peekNth 0
    if t.token == .finish || ends.contains t.token.keyword then return []
    let s ← r.statement
    expectSymbol ";"
    return s.pieces ++ (← statementsUpTo r ends n)

/-- Statements up to one of the words `ends`, or between `BEGIN` and `END`. -/
def innerStatements (r : Rules) (ends : List String) : Parser (List Piece) := do
  if ← keyword "BEGIN" then
    let inner ← statementsUpTo r ends (← turns)
    expectKeyword "END"
    return inner
  statementsUpTo r ends (← turns)

/-- Statements that depend on a condition, after the word before it. -/
def conditional (r : Rules) (ends : List String) : Parser (List Piece) := do
  let e ← r.expr 0
  expectKeyword "THEN"
  return .expr e :: (← innerStatements r ends)

/-- Conditional statements after each word `word`, of which the first is taken. -/
def conditionals (r : Rules) (word : String) (ends : List String) : Parser (List Piece) := do
  let first ← conditional r ends
  let more ← repeated (after [word] (conditional r ends))
  return first ++ more.flatten

/-- What is done if no condition holds, if it is said. -/
def otherwise (r : Rules) : Parser (List Piece) := do
  return (← after ["ELSE"] (innerStatements r ["END"])).getD []

/-- The rest of a `CASE` of statements. -/
def caseStatement (r : Rules) : Parser (List Piece) := do
  let subject ← if (← keywordAt 0) == "WHEN" then pure [] else do pure [Piece.expr (← r.expr 0)]
  expectKeyword "WHEN"
  let branches ← conditionals r "WHEN" ["WHEN", "ELSE", "END"]
  let rest ← otherwise r
  expectKeyword "END"
  allow ["CASE"]
  return subject ++ branches ++ rest

/-- The rest of an `IF`. -/
def ifStatement (r : Rules) : Parser (List Piece) := do
  let first ← conditional r ["ELSE", "ELSEIF", "END"]
  let more ← match ← after ["ELSEIF"] (conditionals r "ELSEIF" ["ELSEIF", "ELSE", "END"]) with
    | some branches => pure branches
    | none => pure []
  let rest ← otherwise r
  expectKeywords ["END", "IF"]
  return first ++ more ++ rest

/-- The rest of a `WHILE`. -/
def whileStatement (r : Rules) : Parser (List Piece) := do
  let e ← r.expr 0
  return .expr e :: (← innerStatements r ["END"])

/-- What is done about an exception, after its word. -/
def exceptionHandler (r : Rules) : Parser (Option (List Piece)) := do
  if (← keywordAt 0) == "END" then return none
  expectKeyword "WHEN"
  let _ ← repeated do
    if ← keyword "THEN" then return none
    let _ ← identifier
    allow ["OR"]
    return some ()
  return some (← statementsUpTo r ["WHEN", "END"] (← turns))

/-- The rest of a block of statements. -/
def blockOf (r : Rules) : Parser (List Piece) := do
  let inner ← statementsUpTo r ["EXCEPTION", "END"] (← turns)
  let handlers ← match ← after ["EXCEPTION"] (repeated (exceptionHandler r)) with
    | some handlers => pure handlers.flatten
    | none => pure []
  expectKeyword "END"
  return inner ++ handlers

/-- Whether a block of statements starts after the word `BEGIN`. -/
def atBlock : Parser Bool := do
  if !(← rule Dialect.statementBlocks) then return false
  match ← peek with
  | .finish | .symbol ";" => return false
  | t => return !(["TRANSACTION", "WORK", "NAME"].contains t.keyword)

/-- The rest of the statement made up of others that starts with the keyword `k`, if it is one. -/
def blockStatement (r : Rules) (k : String) : Option (Parser (List Piece)) :=
  match k with
  | "CASE" => some (caseStatement r)
  | "IF" => some (ifStatement r)
  | "WHILE" => some (whileStatement r)
  | _ => none

end Parser

end AssetFlow.Sql
