import AssetFlow.Sql.Grammar.Reserved
import AssetFlow.Sql.Keyword

/-!
# Lists and names

Lists with commas between their items, identifiers, and the names of tables and other objects.

## Main definitions

- `Parser.list`, `Parser.listBefore`, `Parser.parenthesised`: lists.
- `Parser.identifier`, `Parser.objectName`, `Parser.tableName`: names.
- `Parser.wholeNumber`, `Parser.literalText`: numbers and texts that are no values.
-/

namespace AssetFlow.Sql

namespace Parser

/-- Whether a list ends here: there is no comma, or the comma may be the last token of the list
and nothing of it follows. The comma is taken. -/
def listEnds (trailing : Bool) (closes : Parser Bool) : Parser Bool := do
  if !(← symbol ",") then return true
  if !trailing then return false
  match ← peek with
  | .symbol s => return [")", ";", "]", "\x7d"].contains s
  | .finish => return true
  | _ => closes

/-- The items of a list after the first, at most `n`. -/
def listRest (trailing : Bool) (closes : Parser Bool) (item : Parser α) : Nat → Parser (List α)
  | 0 => return []
  | n + 1 => do
    if ← listEnds trailing closes then return []
    let a ← item
    return a :: (← listRest trailing closes item n)

/-- A list of one or more items. It may end in a comma if `trailing` holds; then `closes` answers
whether a word cannot be an item. -/
def listWith (trailing : Bool) (closes : Parser Bool) (item : Parser α) : Parser (List α) := do
  let first ← item
  return first :: (← listRest trailing closes item (← turns))

/-- A list of one or more items. -/
def list (item : Parser α) : Parser (List α) := do
  listWith (← rule Dialect.trailingCommas) closesList item

/-- A list of items before the symbol `closing`, which is not taken; the list may be empty. -/
def listBefore (closing : String) (item : Parser α) : Parser (List α) := do
  if ← atSymbol closing then return []
  if (← rule Dialect.trailingCommas) && (← atSymbol ",") &&
      (← peekNth 1).token == .symbol closing then
    skip
    return []
  list item

/-- What `p` reads between parentheses. -/
def parenthesised (p : Parser α) : Parser α := do
  expectSymbol "("
  let a ← p
  expectSymbol ")"
  return a

/-- An identifier. -/
def identifier : Parser Ident := do
  let t ← next
  match t.token with
  | .word value quote _ => return ⟨value, quote⟩
  | .string .single value => return ⟨value, some '\''⟩
  | .string .double value => return ⟨value, some '"'⟩
  | _ => failAt t

/-- Identifiers between parentheses. -/
def identifierList : Parser (List Ident) :=
  parenthesised (list identifier)

/-- An alias with or without the word `AS`; without it, `allowed` decides on the word. -/
def aliasName (allowed : Parser Bool) : Parser (Option Ident) := do
  let explicit ← keyword "AS"
  let t ← peekNth 0
  match t.token with
  | .word value quote _ =>
    if explicit || (← allowed) then
      skip
      return some ⟨value, quote⟩
    else return none
  | .string .single value =>
    skip
    return some ⟨value, some '\''⟩
  | .string .double value =>
    skip
    return some ⟨value, some '"'⟩
  | _ => if explicit then failAt t else return none

/-- A part that has dots inside counts as several parts. -/
def splitDots (parts : List Ident) : List Ident :=
  parts.flatMap fun i => (i.value.toList.splitOn '.').map fun v => ⟨String.ofList v, i.quote⟩

/-- The parts of a name with dots between them, where `part` reads one. -/
def nameParts (part : Parser Ident) : Parser ObjectName := do
  let d := (← read).dialect
  let first ← part
  let second ← if ← onlyIf d.doubleDots (symbols [".", "."]) then pure [⟨"", none⟩, ← part]
    else pure []
  let more ← repeated do
    if ← symbol "." then return some (← part) else return none
  let parts := first :: second ++ more
  return ⟨if d.dottedQuotes then splitDots parts else parts⟩

/-- A possibly qualified name. -/
def objectName : Parser ObjectName :=
  nameParts identifier

/-- Names between parentheses. -/
def nameList : Parser (List ObjectName) :=
  parenthesised (list objectName)

/-- The rest of a word with the words and numbers that hyphens tie to it. The answer says whether
a number came last, and whether it took the period after it along. -/
def hyphenatedRest : Nat → String → Bool → Parser (String × Bool × Bool)
  | 0, s, number => return (s, number, false)
  | n + 1, s, number => do
    let dash ← peekNth 0
    if dash.token != .symbol "-" || dash.spaced then return (s, number, false)
    skip
    let t ← peekNth 0
    if t.spaced then failAt t
    skip
    match t.token with
    | .word w none _ => hyphenatedRest n (s ++ "-" ++ w) false
    | .number digits false =>
      if digits.endsWith "." then
        let whole := String.ofList digits.toList.dropLast
        if whole.all Char.isDigit && !whole.isEmpty then return (s ++ "-" ++ whole, true, true)
        else failAt t
      else hyphenatedRest n (s ++ "-" ++ digits) true
    | _ => failHere

/-- A plain word with what hyphens tie to it, or any other identifier; the answer says whether it
took the period after it along. -/
def hyphenated : Parser (Ident × Bool) := do
  match ← peek with
  | .word value none _ =>
    skip
    let (s, number, dotted) ← hyphenatedRest (← turns) value false
    if number && !dotted && !(← atSymbol ".") && (← peek) != .finish then failHere
    return (⟨s, none⟩, dotted)
  | _ => return (← identifier, false)

/-- The parts of the name of a table that may hold hyphens. -/
def hyphenatedParts : Nat → Parser (List Ident)
  | 0 => return []
  | n + 1 => do
    let (i, dotted) ← hyphenated
    let period ← symbol "."
    if period || dotted then return i :: (← hyphenatedParts n) else return [i]

/-- The name of a table, where `part` reads a part of it. -/
def tableNameOf (part : Parser Ident) : Parser ObjectName := do
  if ← rule Dialect.hyphenatedNames then
    return ⟨splitDots (← hyphenatedParts (← turns))⟩
  nameParts part

/-- The name of a table. -/
def tableName : Parser ObjectName :=
  tableNameOf identifier

/-- A whole number below `bound` in digits. -/
def wholeNumberBelow (bound : Nat) : Parser String := do
  let t ← next
  match t.token with
  | .number text _ =>
    match text.toNat? with
    | some n => if text.all Char.isDigit && n < bound then return toString n else failAt t
    | none => failAt t
  | _ => failAt t

/-- A whole number of at most 64 bits in digits. -/
def wholeNumber : Parser String :=
  wholeNumberBelow UInt64.size

/-- The text of a literal in single or double quotes, or of a word that is no keyword. -/
def literalText : Parser String := do
  let t ← next
  match t.token with
  | .string .single value | .string .double value | .string .unicode value => return value
  | .string .escaped value => if ← rule Dialect.escapedLiterals then return value else failAt t
  | token =>
    match token.plainName? with
    | some value => return value
    | none => failAt t

end Parser

end AssetFlow.Sql
