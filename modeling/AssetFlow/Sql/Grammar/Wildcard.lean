import AssetFlow.Sql.Grammar.Value

/-!
# Wildcards

A projection item or function argument may be a wildcard instead of an expression, and options may
narrow what a wildcard stands for.

## Main definitions

- `Starred`: a wildcard, a qualified wildcard, or an expression.
- `Parser.starred`: the parser of them.
- `Parser.wildcardOptions`: what may follow a wildcard.
-/

namespace AssetFlow.Sql

/-- A projection item or function argument before its alias. -/
inductive Starred
  | all
  | allOf (name : ObjectName)
  | expr (e : Expr)

/-- The pieces of a wildcard or expression. -/
def Starred.pieces : Starred → List Piece
  | .all => [.text "*"]
  | .allOf name => [.text (name.render ++ ".*")]
  | .expr e => [.expr e]

namespace Parser

/-- The rest of a qualified wildcard whose parts so far are `seen`, if it is one. -/
def qualifiedWildcard : Nat → List Ident → Parser (Option ObjectName)
  | 0, _ => return none
  | n + 1, seen => do
    if !(← symbol ".") then return none
    let t ← next
    match t.token with
    | .word value quote _ => qualifiedWildcard n (seen ++ [⟨value, quote⟩])
    | .string .single value => qualifiedWildcard n (seen ++ [⟨value, some '\''⟩])
    | .placeholder text => qualifiedWildcard n (seen ++ [⟨text, none⟩])
    | .symbol "*" => return some ⟨seen⟩
    | _ => failAt t

/-- A wildcard, a qualified wildcard, or an expression. -/
def starred (r : Rules) : Parser Starred := do
  let place ← get
  if ← symbol "*" then return .all
  if ← symbols ["(", "*", ")"] then return .all
  let t ← next
  let first : Option Ident := match t.token with
    | .word value quote _ => some ⟨value, quote⟩
    | .string .single value => some ⟨value, some '\''⟩
    | _ => none
  if let some i := first then
    if let some name ← qualifiedWildcard (← turns) [i] then return .allOf name
  set place
  return .expr (← r.expr 0)

/-- One or several names, the latter in parentheses, after the keyword `word`. -/
def excludedNames (word : String) : Parser (List Piece) := do
  if !(← keyword word) then return []
  if ← atSymbol "(" then
    let names ← identifierList
    return [.text (" " ++ word ++ " (" ++ commaSeparated (names.map Ident.render) ++ ")")]
  return [.text (" " ++ word ++ " " ++ (← identifier).render)]

/-- The pattern that the names of the columns match, if one is given. -/
def wildcardPattern : Parser (List Piece) := do
  if !(← keyword "ILIKE") then return []
  let t ← next
  match t.token with
  | .string .single value => return [.text (" ILIKE " ++ inQuotes '\'' value)]
  | _ => failAt t

/-- Names that a wildcard does without, if any are given. -/
def wildcardExceptions : Parser (List Piece) := do
  if !(← keyword "EXCEPT") then return []
  let names ← if ← atSymbol "(" then identifierList else return [.text (" EXCEPT (" ++
    (← identifier).render ++ ")")]
  return [.text (" EXCEPT (" ++ commaSeparated (names.map Ident.render) ++ ")")]

/-- Expressions that replace columns of a wildcard, if any are given. -/
def wildcardReplacements (r : Rules) : Parser (List Piece) := do
  if !(← keyword "REPLACE") then return []
  let items ← parenthesised <| list do
    let e ← r.expr 0
    let word ← flag ["AS"] "AS "
    return [Piece.expr e, .text (" " ++ word ++ (← identifier).render)]
  return .text " REPLACE (" :: separated ", " items ++ [.text ")"]

/-- New names for columns of a wildcard, if any are given. -/
def wildcardNames : Parser (List Piece) := do
  if !(← keyword "RENAME") then return []
  let renamed : Parser String := do
    let i ← identifier
    expectKeyword "AS"
    return i.render ++ " AS " ++ (← identifier).render
  if ← atSymbol "(" then
    return [.text (" RENAME (" ++ commaSeparated (← parenthesised (list renamed)) ++ ")")]
  return [.text (" RENAME " ++ (← renamed))]

/-- What may follow a wildcard. -/
def wildcardOptions (r : Rules) : Parser (List Piece) := do
  let d := (← read).dialect
  let pattern ← if d.wildcardIlike then wildcardPattern else pure []
  let exclude ← if pattern.isEmpty && d.wildcardExclude then excludedNames "EXCLUDE" else pure []
  let except_ ← if d.wildcardExcept then wildcardExceptions else pure []
  let replace ← if d.wildcardReplace then wildcardReplacements r else pure []
  let rename ← if d.wildcardRename then wildcardNames else pure []
  return pattern ++ exclude ++ except_ ++ replace ++ rename

end Parser

end AssetFlow.Sql
