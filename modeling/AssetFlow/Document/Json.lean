import AssetFlow.Document.Value

/-!
# JSON

Reading and writing values as JSON. A number is read as an integer if it is written as one and
fits 64 bits, and else as a floating point number.

## Main definitions

- `Json.read`: the value that a text denotes, if it is JSON.
- `Json.compact`: JSON without blanks.
- `Json.pretty`: JSON with one item on a line.
-/

namespace AssetFlow.Document.Json

/-! ### Reading -/

/-- Skips blanks. -/
def skipBlanks : List Char → List Char
  | c :: rest =>
    if c == ' ' || c == '\n' || c == '\t' || c == '\r' then skipBlanks rest else c :: rest
  | [] => []

/-- The digits at the start of a text, with the rest. -/
def takeDigits (cs : List Char) : List Char × List Char :=
  cs.span Char.isDigit

/-- The value of digits. -/
def digitsValue (ds : List Char) : Nat :=
  ds.foldl (fun n c => 10 * n + (c.toNat - '0'.toNat)) 0

/-- The value of a hexadecimal digit. -/
def hexDigit? (c : Char) : Option Nat :=
  if c.isDigit then some (c.toNat - '0'.toNat)
  else if 'a' ≤ c && c ≤ 'f' then some (c.toNat - 'a'.toNat + 10)
  else if 'A' ≤ c && c ≤ 'F' then some (c.toNat - 'A'.toNat + 10)
  else none

/-- The value of four hexadecimal digits. -/
def readHex4 : List Char → Option (Nat × List Char)
  | a :: b :: c :: d :: rest => do
    let a ← hexDigit? a
    let b ← hexDigit? b
    let c ← hexDigit? c
    let d ← hexDigit? d
    return (((a * 16 + b) * 16 + c) * 16 + d, rest)
  | _ => none

/-- The character of an escape by number; two of them may make one character. -/
def readUnicode (cs : List Char) : Option (Char × List Char) := do
  let (high, rest) ← readHex4 cs
  if 0xDC00 ≤ high && high ≤ 0xDFFF then none
  else if 0xD800 ≤ high && high ≤ 0xDBFF then
    match rest with
    | '\\' :: 'u' :: rest =>
      let (low, rest) ← readHex4 rest
      if 0xDC00 ≤ low && low ≤ 0xDFFF then
        return (Char.ofNat (0x10000 + (high - 0xD800) * 0x400 + (low - 0xDC00)), rest)
      else none
    | _ => none
  else return (Char.ofNat high, rest)

/-- The character of an escape, read after its backslash. -/
def readEscape : List Char → Option (Char × List Char)
  | '"' :: rest => some ('"', rest)
  | '\\' :: rest => some ('\\', rest)
  | '/' :: rest => some ('/', rest)
  | 'b' :: rest => some (Char.ofNat 8, rest)
  | 'f' :: rest => some (Char.ofNat 12, rest)
  | 'n' :: rest => some ('\n', rest)
  | 'r' :: rest => some ('\r', rest)
  | 't' :: rest => some ('\t', rest)
  | 'u' :: rest => readUnicode rest
  | _ => none

/-- The rest of a string after its opening quote; `acc` is what was read so far, backwards. -/
def readString : Nat → List Char → List Char → Option (String × List Char)
  | 0, _, _ => none
  | fuel + 1, acc, cs =>
    match cs with
    | '"' :: rest => some (String.ofList acc.reverse, rest)
    | '\\' :: rest => do
      let (c, rest) ← readEscape rest
      readString fuel (c :: acc) rest
    | c :: rest => if c.toNat < 0x20 then none else readString fuel (c :: acc) rest
    | [] => none

/-- The power of ten after a number, with the rest. -/
def readExponent : List Char → Option (Int × List Char)
  | c :: rest =>
    if c == 'e' || c == 'E' then
      let (negative, rest) : Bool × List Char := match rest with
        | '-' :: rest => (true, rest)
        | '+' :: rest => (false, rest)
        | rest => (false, rest)
      let (ds, rest) := takeDigits rest
      if ds.isEmpty then none
      else
        let e := Int.ofNat (digitsValue ds)
        some (if negative then -e else e, rest)
    else some (0, c :: rest)
  | [] => some (0, [])

/-- The fraction of a number: its digits, with the rest. -/
def readFraction : List Char → Option (List Char × List Char)
  | '.' :: rest =>
    let (ds, rest) := takeDigits rest
    if ds.isEmpty then none else some (ds, rest)
  | rest => some ([], rest)

/-- The greatest significand that a number is scanned with. -/
def significandLimit : Nat := UInt64.size - 1

/-- Adds digits to a significand as long as it stays within its limit; the digits that were left
out count. -/
def collect : Nat → List Char → Nat × Nat
  | n, [] => (n, 0)
  | n, c :: rest =>
    let next := 10 * n + digitsValue [c]
    if next > significandLimit then (n, rest.length + 1) else collect next rest

/-- Multiplies a number by a power of ten the way numbers are scanned: one rounding for the
significand and one for each step. Numbers that are too large have no value. -/
def scalePower : Nat → Binary64 → Int → Option Binary64
  | 0, f, _ => some f
  | fuel + 1, f, exponent =>
    if exponent.natAbs ≤ 308 then
      let power := Binary64.ofRatio false (Nat.pow 10 exponent.natAbs) 1
      if exponent ≥ 0 then
        let product := f.mul power
        if product.isFinite then some product else none
      else some (f.div power)
    else if f == Binary64.zero false then some f
    else if exponent ≥ 0 then none
    else scalePower fuel (f.div (Binary64.ofRatio false (Nat.pow 10 308) 1)) (exponent + 308)

/-- The floating point number with the given digits before and after its point. -/
def floatOf (negative : Bool) (whole fraction : List Char) (exponent : Int) : Option Value := do
  let (significand, dropped) := collect 0 whole
  let (significand, power) : Nat × Int :=
    if dropped > 0 then (significand, dropped)
    else
      let (significand, left) := collect significand fraction
      (significand, -(Int.ofNat (fraction.length - left)))
  let magnitude ← scalePower 8 (Binary64.ofRatio false significand 1) (exponent + power)
  return .float (if negative then magnitude.neg else magnitude)

/-- A number without its sign. -/
def readMagnitude (negative : Bool) (cs : List Char) : Option (Value × List Char) := do
  let (whole, rest) := takeDigits cs
  let wellFormed := match whole with
    | [] => false
    | ['0'] => true
    | '0' :: _ => false
    | _ => true
  if !wellFormed then none
  let (fraction, rest') ← readFraction rest
  let (exponent, rest'') ← readExponent rest'
  let written := rest''.length == rest.length
  let n := digitsValue whole
  if written && !negative && n < UInt64.size then return (.int n, rest'')
  else if written && negative && 0 < n && n ≤ Nat.pow 2 63 then return (.int (-(Int.ofNat n)), rest'')
  else return (← floatOf negative whole fraction exponent, rest'')

/-- Levels of lists and records that a text may have. -/
def maxDepth : Nat := 127

mutual

/-- A value at the start of a text, with the rest. -/
def readValue : Nat → Nat → List Char → Option (Value × List Char)
  | 0, _, _ => none
  | fuel + 1, depth, cs =>
    match skipBlanks cs with
    | 'n' :: 'u' :: 'l' :: 'l' :: rest => some (.null, rest)
    | 't' :: 'r' :: 'u' :: 'e' :: rest => some (.bool true, rest)
    | 'f' :: 'a' :: 'l' :: 's' :: 'e' :: rest => some (.bool false, rest)
    | '"' :: rest => do
      let (s, rest) ← readString (rest.length + 1) [] rest
      return (.text s, rest)
    | '[' :: rest =>
      match depth with
      | 0 => none
      | depth + 1 =>
        match skipBlanks rest with
        | ']' :: rest => some (.list [], rest)
        | rest => readItems fuel depth [] rest
    | '{' :: rest =>
      match depth with
      | 0 => none
      | depth + 1 =>
        match skipBlanks rest with
        | '}' :: rest => some (.record [], rest)
        | rest => readFields fuel depth [] rest
    | '-' :: rest => readMagnitude true rest
    | rest => readMagnitude false rest
termination_by structural fuel => fuel

/-- The items of a list up to its closing bracket; `acc` holds the earlier ones, backwards. -/
def readItems : Nat → Nat → List Value → List Char → Option (Value × List Char)
  | 0, _, _, _ => none
  | fuel + 1, depth, acc, cs => do
    let (v, rest) ← readValue fuel depth cs
    match skipBlanks rest with
    | ']' :: rest => return (.list (v :: acc).reverse, rest)
    | ',' :: rest => readItems fuel depth (v :: acc) rest
    | _ => none
termination_by structural fuel => fuel

/-- The fields of a record up to its closing brace; `acc` holds the earlier ones, backwards. -/
def readFields : Nat → Nat → List (Value × Value) → List Char → Option (Value × List Char)
  | 0, _, _, _ => none
  | fuel + 1, depth, acc, cs =>
    match skipBlanks cs with
    | '"' :: rest => do
      let (key, rest) ← readString (rest.length + 1) [] rest
      match skipBlanks rest with
      | ':' :: rest =>
        let (v, rest) ← readValue fuel depth rest
        match skipBlanks rest with
        | '}' :: rest => return (.record ((.text key, v) :: acc).reverse, rest)
        | ',' :: rest => readFields fuel depth ((.text key, v) :: acc) rest
        | _ => none
      | _ => none
    | _ => none
termination_by structural fuel => fuel

end

/-- The value that a text denotes, if it is JSON. -/
def read (s : String) : Option Value := do
  let cs := s.toList
  let (v, rest) ← readValue (2 * cs.length + 2) maxDepth cs
  if (skipBlanks rest).isEmpty then some v else none

/-! ### Writing -/

/-- A digit of a hexadecimal number. -/
def hexDigit (n : Nat) : Char :=
  Nat.digitChar n

/-- A character within a string. -/
def escape (c : Char) : List Char :=
  match c with
  | '"' => ['\\', '"']
  | '\\' => ['\\', '\\']
  | '\n' => ['\\', 'n']
  | '\r' => ['\\', 'r']
  | '\t' => ['\\', 't']
  | c =>
    if c.toNat == 8 then ['\\', 'b']
    else if c.toNat == 12 then ['\\', 'f']
    else if c.toNat < 0x20 then
      ['\\', 'u', '0', '0', hexDigit (c.toNat / 16), hexDigit (c.toNat % 16)]
    else [c]

/-- A string with its quotes. -/
def quoted (s : String) : String :=
  String.ofList ('"' :: s.toList.flatMap escape ++ ['"'])

/-- A scalar; a number without a value is written as nothing. -/
def scalar : Value → String
  | .bool true => "true"
  | .bool false => "false"
  | .int n => toString n
  | .float x => if x.isFinite then x.spell else "null"
  | .text s => quoted s
  | _ => "null"

/-- The key of a field: a string that spells the value. -/
def key (v : Value) : String :=
  match v with
  | .text s => quoted s
  | v => quoted (scalar v)

mutual

/-- A value without blanks. -/
def compact : Value → String
  | .list items => "[" ++ compactItems items ++ "]"
  | .record fields => "\x7b" ++ compactFields fields ++ "\x7d"
  | .tagged tag content => "\x7b" ++ quoted ("!" ++ tag) ++ ":" ++ compact content ++ "\x7d"
  | .null => "null"
  | .bool b => scalar (.bool b)
  | .int n => scalar (.int n)
  | .float x => scalar (.float x)
  | .text s => quoted s
termination_by structural v => v

/-- Items with commas between them. -/
def compactItems : List Value → String
  | [] => ""
  | v :: rest => compact v ++ compactMore rest
termination_by structural vs => vs

/-- Items with commas before them. -/
def compactMore : List Value → String
  | [] => ""
  | v :: rest => "," ++ compact v ++ compactMore rest
termination_by structural vs => vs

/-- Fields with commas between them. -/
def compactFields : List (Value × Value) → String
  | [] => ""
  | f :: rest => compactField f ++ compactMoreFields rest
termination_by structural fs => fs

/-- Fields with commas before them. -/
def compactMoreFields : List (Value × Value) → String
  | [] => ""
  | f :: rest => "," ++ compactField f ++ compactMoreFields rest
termination_by structural fs => fs

/-- A field. -/
def compactField : Value × Value → String
  | (k, v) => key k ++ ":" ++ compact v
termination_by structural f => f

end

/-- The start of a line. -/
def newLine (depth : Nat) : String :=
  "\n" ++ String.ofList (List.replicate (2 * depth) ' ')

mutual

/-- A value with one item on a line, at a depth of indentation. -/
def prettyAt (depth : Nat) : Value → String
  | .list [] => "[]"
  | .list (v :: rest) =>
    "[" ++ newLine (depth + 1) ++ prettyAt (depth + 1) v ++ prettyMore (depth + 1) rest
      ++ newLine depth ++ "]"
  | .record [] => "\x7b\x7d"
  | .record (f :: rest) =>
    "\x7b" ++ newLine (depth + 1) ++ prettyField (depth + 1) f ++ prettyMoreFields (depth + 1) rest
      ++ newLine depth ++ "\x7d"
  | .tagged tag content =>
    "\x7b" ++ newLine (depth + 1) ++ quoted ("!" ++ tag) ++ ": " ++ prettyAt (depth + 1) content
      ++ newLine depth ++ "\x7d"
  | .null => "null"
  | .bool b => scalar (.bool b)
  | .int n => scalar (.int n)
  | .float x => scalar (.float x)
  | .text s => quoted s
termination_by structural v => v

/-- Items, each on a line after a comma. -/
def prettyMore (depth : Nat) : List Value → String
  | [] => ""
  | v :: rest => "," ++ newLine depth ++ prettyAt depth v ++ prettyMore depth rest
termination_by structural vs => vs

/-- Fields, each on a line after a comma. -/
def prettyMoreFields (depth : Nat) : List (Value × Value) → String
  | [] => ""
  | f :: rest => "," ++ newLine depth ++ prettyField depth f ++ prettyMoreFields depth rest
termination_by structural fs => fs

/-- A field. -/
def prettyField (depth : Nat) : Value × Value → String
  | (k, v) => key k ++ ": " ++ prettyAt depth v
termination_by structural f => f

end

/-- A value with one item on a line. -/
def pretty (v : Value) : String :=
  prettyAt 0 v

end AssetFlow.Document.Json
