import AssetFlow.Sql.Grammar.Type

/-!
# Values and small clauses

Literal values, units of time, orderings, and clauses of expressions after keywords.

## Main definitions

- `Rules`: the parsers that recursion goes through.
- `Parser.literal`, `Parser.numberLiteral`: literal values.
- `Parser.orderItems`, `Parser.exprClause`: orderings and clauses.
-/

namespace AssetFlow.Sql

/-- The parsers through which the grammar nests. A parser is built from the rules one level
below it, so the number of levels is the depth to which a text may nest. -/
structure Rules where
  /-- An expression of operators that bind more tightly than the given strength. -/
  expr : Nat → Parser Expr
  /-- An operand with its signs, without infix operators. -/
  operand : Parser Expr
  query : Parser Query
  statement : Parser Statement
  /-- A statement that changes data, in the place of a query body. -/
  change : Parser (List Piece)

/-- Rows of pieces with a separator between them. -/
def separated (separator : String) : List (List Piece) → List Piece
  | [] => []
  | [p] => p
  | p :: rest => p ++ .text separator :: separated separator rest

/-- Expressions with commas between them. -/
def exprList (es : List Expr) : List Piece :=
  separated ", " (es.map fun e => [.expr e])

/-- Pieces after a word, or none. -/
def optionalPieces (before : String) : Option (List Piece) → List Piece
  | none => []
  | some pieces => .text before :: pieces

/-- The spelling of a string literal. -/
def renderLiteral (style : StringStyle) (value : String) : String :=
  let escapedChar (c : Char) : String :=
    match c with
    | '\'' => "\\'"
    | '\\' => "\\\\"
    | '\n' => "\\n"
    | '\t' => "\\t"
    | '\r' => "\\r"
    | c => String.singleton c
  let hex (width n : Nat) : String :=
    let digits := (Nat.toDigits 16 n).map Char.toUpper
    String.ofList (List.replicate (width - digits.length) '0' ++ digits)
  let codePoint (c : Char) : String :=
    if c.toNat < 128 then String.singleton c
    else if c.toNat ≤ 0xffff then "\\" ++ hex 4 c.toNat
    else "\\+" ++ hex 6 c.toNat
  match style with
  | .single => inQuotes '\'' value
  | .double => inQuotes '"' value
  | .national => "N'" ++ value ++ "'"
  | .hex => "X'" ++ value ++ "'"
  | .escaped => "E'" ++ String.join (value.toList.map escapedChar) ++ "'"
  | .unicode => "U&'" ++ String.join (value.toList.map codePoint) ++ "'"
  | .byteSingle => "B'" ++ value ++ "'"
  | .byteDouble => "B\"" ++ value ++ "\""
  | .rawSingle => "R'" ++ value ++ "'"
  | .rawDouble => "R\"" ++ value ++ "\""
  | .tripleSingle => "'''" ++ value ++ "'''"
  | .tripleDouble => "\"\"\"" ++ value ++ "\"\"\""
  | .byteTripleSingle => "B'''" ++ value ++ "'''"
  | .byteTripleDouble => "B\"\"\"" ++ value ++ "\"\"\""
  | .rawTripleSingle => "R'''" ++ value ++ "'''"
  | .rawTripleDouble => "R\"\"\"" ++ value ++ "\"\"\""
  | .dollar tag => "$" ++ tag ++ "$" ++ value ++ "$" ++ tag ++ "$"
  | .delimited opening closing =>
    "Q'" ++ String.singleton opening ++ value ++ String.singleton closing ++ "'"
  | .nationalDelimited opening closing =>
    "NQ'" ++ String.singleton opening ++ value ++ String.singleton closing ++ "'"

namespace Parser

/-- The value of a string literal in plain quotes that comes next, after a line break if `broken`
holds. -/
def neighbouringString (broken : Bool) : Parser (Option String) := do
  let t ← peekNth 0
  if broken && !t.gap.broken then return none
  match t.token with
  | .string .single value | .string .double value =>
    skip
    return some value
  | _ => return none

/-- The string literals that follow a string literal and belong to it. -/
def joinedLiterals : Parser String := do
  let d := (← read).dialect
  if d.concatenatesStrings then return String.join (← repeated (neighbouringString false))
  if d.concatenatesLines then return String.join (← repeated (neighbouringString true))
  return ""

/-- A literal value. -/
def literal : Parser Expr := do
  let t ← next
  match t.token with
  | .word value quote k =>
    if k == "TRUE" && (← rule Dialect.booleanLiterals) then return .literal "true"
    else if k == "FALSE" && (← rule Dialect.booleanLiterals) then return .literal "false"
    else if k == "NULL" then return .literal "NULL"
    else match quote with
      | some '"' => return .literal (inQuotes '"' value)
      | some '\'' => return .literal (inQuotes '\'' value)
      | _ => failAt t
  | .number text long => return .literal (if long then text ++ "L" else text)
  | .string style value =>
    let more ← if style == .single || style == .double then joinedLiterals else pure ""
    return .literal (renderLiteral style (value ++ more))
  | .placeholder text => return .literal text
  | .symbol s =>
    if s == ":" || s == "@" then
      let name ← peekNth 0
      if name.spaced then throw (.unexpected t.stop)
      skip
      match name.token with
      | .word value _ _ => return .literal (s ++ value)
      | .number text false => return .literal (s ++ text)
      | _ => failAt name
    else failAt t
  | _ => failAt t

/-- A literal value that is a number or a placeholder. -/
def numberLiteral : Parser Expr := do
  let t ← peekNth 0
  let place ← get
  let e ← literal
  match t.token with
  | .number .. | .placeholder _ | .symbol _ => return e
  | _ =>
    set place
    failAt t

/-- Fields of dates and times that every dialect knows. -/
def dateFields : List String :=
  ["YEAR", "YEARS", "MONTH", "MONTHS", "WEEK", "WEEKS", "DAY", "DAYOFWEEK", "DAYOFYEAR", "DAYS",
    "DATE", "DATETIME", "HOUR", "HOURS", "MINUTE", "MINUTES", "SECOND", "SECONDS", "CENTURY",
    "DECADE", "DOY", "DOW", "EPOCH", "ISODOW", "ISOYEAR", "ISOWEEK", "JULIAN", "MICROSECOND",
    "MICROSECONDS", "MILLENIUM", "MILLENNIUM", "MILLISECOND", "MILLISECONDS", "NANOSECOND",
    "NANOSECONDS", "QUARTER", "TIME", "TIMEZONE", "TIMEZONE_ABBR", "TIMEZONE_HOUR",
    "TIMEZONE_MINUTE", "TIMEZONE_REGION"]

/-- Units that may follow the value of an interval. -/
def intervalUnits : List String :=
  ["YEAR", "YEARS", "MONTH", "MONTHS", "WEEK", "WEEKS", "DAY", "DAYS", "HOUR", "HOURS", "MINUTE",
    "MINUTES", "SECOND", "SECONDS", "CENTURY", "DECADE", "DOW", "DOY", "EPOCH", "ISODOW",
    "ISOYEAR", "JULIAN", "MICROSECOND", "MICROSECONDS", "MILLENIUM", "MILLENNIUM", "MILLISECOND",
    "MILLISECONDS", "NANOSECOND", "NANOSECONDS", "QUARTER", "TIMEZONE", "TIMEZONE_HOUR",
    "TIMEZONE_MINUTE"]

/-- A field of a date or time. -/
def dateField : Parser String := do
  let d := (← read).dialect
  let t ← next
  let k := t.token.keyword
  if k == "WEEK" && d.weekStarts && (← atSymbol "(") then
    return "WEEK(" ++ (← parenthesised identifier).render ++ ")"
  if dateFields.contains k then return k
  match t.token with
  | .word value quote _ =>
    if d.customDateFields then return Ident.render ⟨value, quote⟩ else failAt t
  | .string .single value => if d.quotedDateFields then return inQuotes '\'' value else failAt t
  | _ => failAt t

/-- The direction and the place of nulls of an ordering. -/
def orderOptions : Parser String := do
  let direction ← if ← keyword "ASC" then pure " ASC"
    else if ← keyword "DESC" then pure " DESC"
    else pure ""
  let nulls ← if ← keywords ["NULLS", "FIRST"] then pure " NULLS FIRST"
    else if ← keywords ["NULLS", "LAST"] then pure " NULLS LAST"
    else pure ""
  return direction ++ nulls

/-- An expression with its direction. -/
def orderItem (r : Rules) : Parser (List Piece) := do
  let e ← r.expr 0
  let options ← orderOptions
  if !(← onlyIf (← rule Dialect.orderFilling) (keywords ["WITH", "FILL"])) then
    return [.expr e, .text options]
  let bound (word : String) : Parser (List Piece) := do
    return optionalPieces (" " ++ word ++ " ") ((← after [word] (r.expr 0)).map fun b => [.expr b])
  let start ← bound "FROM"
  let stop ← bound "TO"
  let step ← bound "STEP"
  return [.expr e, .text (options ++ " WITH FILL")] ++ start ++ stop ++ step

/-- Expressions with their directions. -/
def orderItems (r : Rules) : Parser (List Piece) := do
  return separated ", " (← list (orderItem r))

/-- A clause of one expression after keywords, if it is given. -/
def exprClause (r : Rules) (words : List String) : Parser (List Piece) := do
  match ← after words (r.expr 0) with
  | some e => return [.text (" " ++ " ".intercalate words ++ " "), .expr e]
  | none => return []

/-- A clause of several expressions after keywords, if it is given. -/
def exprsClause (r : Rules) (words : List String) : Parser (List Piece) := do
  match ← after words (list (r.expr 0)) with
  | some es => return .text (" " ++ " ".intercalate words ++ " ") :: exprList es
  | none => return []

/-- A clause of several expressions with their directions after keywords, if it is given. -/
def orderClause (r : Rules) (words : List String) : Parser (List Piece) := do
  match ← after words (orderItems r) with
  | some items => return .text (" " ++ " ".intercalate words ++ " ") :: items
  | none => return []

end Parser

end AssetFlow.Sql
