import AssetFlow.Sql.Grammar.Alter
import AssetFlow.Sql.Grammar.Session
import AssetFlow.Sql.Grammar.Transaction
import AssetFlow.Sql.Token.Lexer

/-!
# Statements

Statements other than queries are kept by what they mention: the tables they read and write, and
the queries and expressions inside them.

## Main definitions

- `Parser.statement`: any statement.
- `Parser.rules`: the grammar, tied together by levels of nesting.
- `parseStatements`: the statements of a text.
-/

namespace AssetFlow.Sql

namespace Parser

/-- The rest of the statement that starts with the keyword `k` and defines or changes something, if
it is one. -/
def definingStatement (r : Rules) (k : String) : Option (Parser (List Piece)) :=
  match k with
  | "CREATE" => some (createOf r)
  | "DROP" => some dropOf
  | "ALTER" => some (alterOf r)
  | "TRUNCATE" => some (truncateOf r)
  | "INSERT" => some (insertOf r "INSERT")
  | "UPDATE" => some (updateOf r)
  | "DELETE" => some (deleteOf r)
  | "MERGE" => some (mergeOf r)
  | _ => none

/-- The rest of the statement that starts with the keyword `k`, if there is one. -/
def commandOf (r : Rules) (d : Dialect) (k : String) : Option (Parser (List Piece)) :=
  let modes := do transactionModes (← turns) false
  let transaction := (transactionStatement k).map fun p => do
    p
    return []
  definingStatement r k <|> sessionStatement r modes k <|> dialectStatement r d k <|>
    transaction <|> blockStatement r k

/-- A statement. -/
def statement (r : Rules) : Parser Statement := do
  let t ← peekNth 0
  let k := t.token.keyword
  if t.token == .symbol "(" || ["SELECT", "WITH", "VALUES", "FROM"].contains k then
    return .query (← r.query)
  skip
  if ← onlyIf (k == "BEGIN") atBlock then return .command (← blockOf r)
  match commandOf r (← read).dialect k with
  | some rest => return .command (← rest)
  | none => failAt t

/-- The rules at a level. Below the last level every text nests too deeply; operands and changes
of data cost no level, since a level is spent by the expressions and queries inside them. -/
def rules : (level : Nat) → Rules
  | 0 => ⟨fun _ => throw .tooDeep, throw .tooDeep, throw .tooDeep, throw .tooDeep, throw .tooDeep⟩
  | level + 1 =>
    let below := rules level
    let inner := { below with operand := operand below }
    let r := { inner with change := change inner }
    { expr := expression r
      operand := r.operand
      query := query r
      statement := statement r
      change := r.change }

/-- How deeply statements, queries and expressions may nest. -/
def maxNesting : Nat := 50

/-- One statement, and whatever the semicolons before it; nothing at the end of the text. `first`
says whether no statement has been read yet. -/
def nextStatement (first : Bool) : Parser (Option Statement) := do
  let separators ← repeated do
    if ← symbol ";" then return some () else return none
  let expecting := !first && separators.isEmpty
  let t ← peekNth 0
  if t.token == .finish then return none
  if expecting then
    if t.token.keyword == "END" then return none
    failAt t
  return some (← (rules maxNesting).statement)

/-- Statements with semicolons between them. -/
def statements : Parser (List Statement) := do
  match ← nextStatement true with
  | none => return []
  | some s => return s :: (← repeated (nextStatement false))

end Parser

/-- The statements of a text, which is read without the blanks around it. -/
def parseStatements (d : Dialect) (text : String) : Except SyntaxError (List Statement) :=
  match Token.scan d text with
  | .error p => .error (.unexpected p)
  | .ok tokens => (Parser.statements ⟨d, tokens, false⟩ 0).map (·.1)

end AssetFlow.Sql
