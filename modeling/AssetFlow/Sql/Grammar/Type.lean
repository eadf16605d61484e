import AssetFlow.Sql.Grammar.Name

/-!
# Types of values

Type names occur in conversions, in typed literals and in definitions. Only their spelling is
kept, with what the grammar of expressions asks for: whether the name is one the language knows,
and whether it is `INTERVAL` or `BINARY`.

## Main definitions

- `TypeName`: what is kept of a type.
- `TypeShape`, `typeShapes`: the types of one word and what may follow the word.
- `Parser.typeName`: the parser of types.
-/

namespace AssetFlow.Sql

/-- What the grammar of expressions asks of a type. -/
inductive TypeClass
  | known
  /-- A type that the language does not know. -/
  | custom
  | interval
  | binary
  deriving DecidableEq, Repr, Inhabited

/-- A type in its canonical spelling. -/
structure TypeName where
  spelling : String
  class_ : TypeClass := .known
  deriving Repr, Inhabited

/-- What may follow the word of a type. -/
inductive TypeShape
  /-- Nothing. -/
  | bare
  /-- A sign. -/
  | signed
  /-- A display width and a sign. -/
  | integer
  /-- A length. -/
  | sized
  /-- A length in a unit, or `MAX`. -/
  | textual
  /-- A length, or `MAX`. -/
  | bytes
  /-- `VARYING` or `LARGE OBJECT`, and a length. -/
  | character
  /-- A precision and a scale, and a sign if `signed` holds. -/
  | exact (signed : Bool)
  /-- A precision and a time zone. -/
  | timed
  /-- A length that must be there. -/
  | fixed
  /-- String literals with numbers. -/
  | enumeration
  /-- Another type in parentheses. -/
  | wrapper
  deriving DecidableEq, Repr

/-- Types of one word that keep its spelling. -/
def typeShapes : List (TypeShape × List String) :=
  [(.bare, ["BOOLEAN", "BOOL", "FLOAT4", "FLOAT64", "FLOAT8", "HUGEINT", "UBIGINT", "UHUGEINT",
      "USMALLINT", "UTINYINT", "INT64", "UUID", "DATE", "JSON", "JSONB", "REGCLASS", "TEXT",
      "TINYTEXT", "MEDIUMTEXT", "LONGTEXT", "BYTEA", "TINYBLOB", "MEDIUMBLOB", "LONGBLOB",
      "TRIGGER"]),
    (.signed, ["REAL"]),
    (.integer, ["TINYINT", "INT2", "SMALLINT", "MEDIUMINT", "INT", "INT4", "INT8", "INTEGER",
      "BIGINT"]),
    (.sized, ["CLOB", "BLOB", "BYTES", "STRING", "DATETIME", "TIMESTAMP_NTZ", "VARBIT",
      "TIMESTAMPTZ", "TIMETZ"]),
    (.textual, ["VARCHAR", "NVARCHAR"]),
    (.bytes, ["VARBINARY"]),
    (.character, ["CHARACTER", "CHAR"]),
    (.exact true, ["DECIMAL", "DEC", "FLOAT"]),
    (.exact false, ["NUMERIC", "BIGNUMERIC", "BIGDECIMAL"]),
    (.timed, ["TIMESTAMP", "TIME"]),
    (.enumeration, ["ENUM", "ENUM8", "ENUM16"])]

/-- Types of one word with a spelling of their own. -/
def respelledTypes : List (String × TypeShape × String) :=
  [("INT16", .bare, "Int16"), ("INT32", .bare, "Int32"), ("INT128", .bare, "Int128"),
    ("INT256", .bare, "Int256"), ("UINT8", .bare, "UInt8"), ("UINT16", .bare, "UInt16"),
    ("UINT32", .bare, "UInt32"), ("UINT64", .bare, "UInt64"), ("UINT128", .bare, "UInt128"),
    ("UINT256", .bare, "UInt256"), ("FLOAT32", .bare, "Float32"), ("DATE32", .bare, "Date32"),
    ("FIXEDSTRING", .fixed, "FixedString")]

/-- Types of one word that only some dialects know. -/
def dialectTypes (d : Dialect) : List (String × TypeShape × String) :=
  (if d.wrappedTypes then
    [("NULLABLE", .wrapper, "Nullable"), ("LOWCARDINALITY", .wrapper, "LowCardinality")]
   else []) ++
  (if d.parenthesisedArrays then [("ARRAY", .wrapper, "Array")] else []) ++
  (if d.bareArrays then [("ARRAY", .bare, "ARRAY")] else []) ++
  (if d.textSearchTypes then
    [("TSVECTOR", .bare, "TSVECTOR"), ("TSQUERY", .bare, "TSQUERY")]
   else [])

/-- The shape and the spelling of the type that a keyword names, if it is a type of one word. -/
def typeShape? (d : Dialect) (k : String) : Option (TypeShape × String) :=
  match (dialectTypes d ++ respelledTypes).lookup k with
  | some shape => some shape
  | none => (typeShapes.find? (·.2.contains k)).map fun s => (s.1, k)

namespace Parser

/-- A number in parentheses, if there is one. -/
def optionalLength : Parser String := do
  if ← symbol "(" then
    let n ← wholeNumber
    expectSymbol ")"
    return "(" ++ n ++ ")"
  return ""

/-- A length in parentheses, if there is one; `units` are the units it may be given in. -/
def optionalLengthIn (units : List String) : Parser String := do
  if !(← symbol "(") then return ""
  let inside ← if ← keyword "MAX" then pure "MAX"
    else do
      let n ← wholeNumber
      match ← oneOf units with
      | some unit => pure (n ++ " " ++ unit)
      | none => pure n
  expectSymbol ")"
  return "(" ++ inside ++ ")"

/-- A length in characters or bytes in parentheses, if there is one. -/
def optionalCharacterLength : Parser String :=
  optionalLengthIn ["CHARACTERS", "OCTETS"]

/-- A precision in parentheses and, after `separator`, what `scale` reads, if there are any. -/
def optionalPrecision (separator : String) (scale : Parser String) : Parser String := do
  if !(← symbol "(") then return ""
  let p ← wholeNumber
  let s ← if ← symbol "," then pure (separator ++ (← scale)) else pure ""
  expectSymbol ")"
  return "(" ++ p ++ s ++ ")"

/-- A scale, which may have a sign. -/
def signedScale : Parser String := do
  let negative ← symbol "-"
  if !negative then
    let _ ← symbol "+"
  let n ← wholeNumberBelow (Nat.pow 2 63)
  return if negative && n != "0" then "-" ++ n else n

/-- A precision and a scale in parentheses, if there are any. -/
def optionalPrecisionScale : Parser String :=
  optionalPrecision "," signedScale

/-- The time zone clause of a time type, if there is one. -/
def optionalTimeZone : Parser String := do
  match ← oneOf ["WITH", "WITHOUT"] with
  | some k =>
    expectKeywords ["TIME", "ZONE"]
    return " " ++ k ++ " TIME ZONE"
  | none => return ""

/-- What closes the quote of a word. -/
def closingQuote (quote : Char) : Char :=
  if quote == '[' then ']' else quote

/-- The words in parentheses after the name of a type that the language does not know. -/
def optionalModifiers : Parser String := do
  if !(← symbol "(") then return ""
  let words ← repeated do
    let t ← next
    match t.token with
    | .word value none _ | .number value _ | .string .single value => return some [value]
    | .word value (some q) _ =>
      return some [String.singleton q ++ value ++ String.singleton (closingQuote q)]
    | .symbol "," => return some []
    | .symbol ")" => return none
    | _ => failAt t
  let words := words.flatten
  return if words.isEmpty then "" else "(" ++ commaSeparated words ++ ")"

/-- A number with a sign. -/
def signedNumber : Parser String := do
  let sign ← if ← symbol "+" then pure "+" else if ← symbol "-" then pure "-" else pure ""
  let t ← next
  match t.token with
  | .number text long => return sign ++ text ++ (if long then "L" else "")
  | _ => failAt t

/-- The string literals of an enumeration type. -/
def enumerationValues : Parser String := do
  let values ← parenthesised <| list do
    let value ← literalText
    let assigned ← if ← symbol "=" then pure (" = " ++ (← signedNumber)) else pure ""
    return inQuotes '\'' value ++ assigned
  return "(" ++ commaSeparated values ++ ")"

/-- The string literals of a type of sets. -/
def setValues : Parser String := do
  let values ← parenthesised <| listWith false closesList do
    let t ← next
    match t.token with
    | .string .single value => return inQuotes '\'' value
    | _ => failAt t
  return "(" ++ commaSeparated values ++ ")"

/-- The fields that an interval type is limited to, if any are named. -/
def intervalFields : Parser Unit := do
  let upTo (last : List String) : Parser Unit := do
    if ← keyword "TO" then
      let _ ← expectOneOf last
  match ← oneOf ["YEAR", "DAY", "HOUR", "MINUTE", "MONTH", "SECOND"] with
  | some "YEAR" => upTo ["MONTH"]
  | some "DAY" => upTo ["HOUR", "MINUTE", "SECOND"]
  | some "HOUR" => upTo ["MINUTE", "SECOND"]
  | some "MINUTE" => upTo ["SECOND"]
  | _ => return ()

/-- Closes an angle bracket. A double bracket closes two: `pending` says that the inner type has
already taken the closing bracket of this one, and the answer says so to the outer one. -/
def closeAngle (pending : Bool) : Parser Bool := do
  if pending then return false
  if ← symbol ">" then return false
  if ← symbol ">>" then return true
  failHere

/-- A field of a structured type, which may have a name. -/
def structField (inner : Parser (TypeName × Bool)) : Parser (String × Bool) := do
  let named := (← peek).isWord &&
    ((← peekNth 1).token.isWord || (← peekNth 1).token == .symbol ":")
  let name ← if named then do
      let i ← identifier
      let _ ← symbol ":"
      pure (i.render ++ " ")
    else pure ""
  let (type, pending) ← inner
  return (name ++ type.spelling, pending)

/-- Fields up to the closing angle bracket; the answer says whether the last field has taken it. -/
def angleFields (inner : Parser (TypeName × Bool)) : Nat → Parser (List String × Bool)
  | 0 => return ([], false)
  | n + 1 => do
    let (field, pending) ← structField inner
    if !(← onlyIf (!pending) (symbol ",")) then return ([field], pending)
    let (more, pending) ← angleFields inner n
    return (field :: more, pending)

/-- Named fields in parentheses. -/
def fieldList (inner : Parser TypeName) : Parser String := do
  let fields ← parenthesised <| list do
    let name ← identifier
    return name.render ++ " " ++ (← inner).spelling
  return "(" ++ commaSeparated fields ++ ")"

/-- The spelling of a type of one word after the word. -/
def shapedType (inner : Parser TypeName) (spelling : String) : TypeShape → Parser String
  | .bare => return spelling
  | .signed => return spelling ++ (← flag ["UNSIGNED"] " UNSIGNED")
  | .integer => do
    let width ← optionalLength
    if ← keyword "UNSIGNED" then return spelling ++ width ++ " UNSIGNED"
    if ← rule Dialect.signedTypes then
      let _ ← keyword "SIGNED"
    return spelling ++ width
  | .sized => return spelling ++ (← optionalLength)
  | .textual => return spelling ++ (← optionalCharacterLength)
  | .bytes => return spelling ++ (← optionalLengthIn [])
  | .character => do
    if ← keyword "VARYING" then return spelling ++ " VARYING" ++ (← optionalCharacterLength)
    if ← keywords ["LARGE", "OBJECT"] then
      return spelling ++ " LARGE OBJECT" ++ (← optionalLength)
    return spelling ++ (← optionalCharacterLength)
  | .exact signed => do
    let size ← optionalPrecisionScale
    let sign ← if signed then flag ["UNSIGNED"] " UNSIGNED" else pure ""
    return spelling ++ size ++ sign
  | .timed => do
    let p ← optionalLength
    return spelling ++ p ++ (← optionalTimeZone)
  | .fixed => return spelling ++ "(" ++ (← parenthesised wholeNumber) ++ ")"
  | .enumeration => return spelling ++ (← enumerationValues)
  | .wrapper => return spelling ++ "(" ++ (← parenthesised inner).spelling ++ ")"

/-- A type that took no closing bracket of a type around it. -/
def completed (p : Parser (TypeName × Bool)) : Parser TypeName := do
  let (t, pending) ← p
  if pending then failUnplaced
  return t

/-- A type of several words or with types inside it, after its first word with the keyword `k`, and
whether it took the closing bracket of the type around it; nothing if it is none. -/
def compoundType (inner : Parser (TypeName × Bool)) (k : String) :
    Parser (Option (TypeName × Bool)) := do
  let d := (← read).dialect
  let whole := completed inner
  let known (s : String) : Parser (Option (TypeName × Bool)) := return some (⟨s, .known⟩, false)
  if k == "DOUBLE" then
    let size ← if ← keyword "PRECISION" then pure " PRECISION" else optionalPrecisionScale
    known (k ++ size ++ (← flag ["UNSIGNED"] " UNSIGNED"))
  else if k == "BINARY" then
    return some (⟨k ++ (← optionalLength), .binary⟩, false)
  else if k == "BIT" then
    let varying ← flag ["VARYING"] " VARYING"
    known (k ++ varying ++ (← optionalLength))
  else if k == "INTERVAL" then
    if d.intervalOptions then
      intervalFields
      let _ ← optionalLength
    return some (⟨k, .interval⟩, false)
  else if k == "SET" then known (k ++ (← setValues))
  else if k == "SIGNED" || k == "UNSIGNED" then known (k ++ (← flag ["INTEGER"] " INTEGER"))
  else if k == "DATETIME64" then
    expectSymbol "("
    let p ← wholeNumber
    let zone ← if ← symbol "," then pure (", '" ++ (← literalText) ++ "'") else pure ""
    expectSymbol ")"
    known ("DateTime64(" ++ p ++ zone ++ ")")
  else if k == "ARRAY" then
    expectSymbol "<"
    let (element, pending) ← inner
    let spare ← closeAngle pending
    return some (⟨"ARRAY<" ++ element.spelling ++ ">", .known⟩, spare)
  else if k == "MAP" && d.wrappedTypes then
    expectSymbol "("
    let key ← whole
    expectSymbol ","
    let value ← whole
    expectSymbol ")"
    known ("Map(" ++ key.spelling ++ ", " ++ value.spelling ++ ")")
  else if (k == "TUPLE" || k == "NESTED") && d.wrappedTypes then
    let fields ← parenthesised (listWith false closesList (structField inner))
    known ((if k == "TUPLE" then "Tuple(" else "Nested(") ++ commaSeparated (fields.map (·.1)) ++
      ")")
  else if k == "UNION" && d.unionTypes then known (k ++ (← fieldList whole))
  else if k == "STRUCT" && d.fieldTypes then known (k ++ (← fieldList whole))
  else if k == "STRUCT" && d.angleStructs then
    if !(← symbol "<") then known k
    else
      let (fields, pending) ← angleFields inner (← turns)
      let spare ← closeAngle pending
      return some (⟨"STRUCT<" ++ commaSeparated fields ++ ">", .known⟩, spare)
  else if k == "SETOF" then known (k ++ " " ++ (← whole).spelling)
  else if k == "ANY" && (← keywordAt 0) == "TYPE" then
    skip
    known "ANY TYPE"
  else if k == "TABLE" && !(← atSymbol "(") then known k
  else return none

/-- A type without array brackets, and whether it took the closing bracket of the type around it;
`inner` reads the types inside it. -/
def baseType (inner : Parser (TypeName × Bool)) : Parser (TypeName × Bool) := do
  let t ← next
  if !t.token.isWord then failAt t
  let k := t.token.keyword
  match typeShape? (← read).dialect k with
  | some (shape, spelling) =>
    return (⟨← shapedType (completed inner) spelling shape, .known⟩, false)
  | none =>
    match ← compoundType inner k with
    | some type => return type
    | none =>
      unskip
      let name ← objectName
      let modifiers ← optionalModifiers
      return (⟨name.render ++ modifiers, .custom⟩, false)

/-- A type with its array brackets; `depth` bounds the nesting. -/
def typeNameDeep : (depth : Nat) → Parser (TypeName × Bool)
  | 0 => throw .tooDeep
  | depth + 1 => do
    let (base, pending) ← baseType (typeNameDeep depth)
    if !(← rule Dialect.bracketedTypes) then return (base, pending)
    let brackets ← repeated do
      if !(← symbol "[") then return none
      let size ← attempt wholeNumber
      expectSymbol "]"
      return some ("[" ++ size.getD "" ++ "]")
    if brackets.isEmpty then return (base, pending)
    return (⟨base.spelling ++ String.join brackets, .known⟩, pending)

/-- A type. -/
def typeName : Parser TypeName := do
  completed (typeNameDeep (← turns))

end Parser

end AssetFlow.Sql
