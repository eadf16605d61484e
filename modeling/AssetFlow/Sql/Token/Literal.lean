import AssetFlow.Sql.Quoted
import AssetFlow.Sql.Token

/-!
# Reading string literals

Each reader starts after the opening quote and answers the value together with the number of
characters read, the closing quote included. A literal that never closes has no value; a code
escape that is none fails at a place of its own.

## Main definitions

- `readLiteral`: quotes doubled, and backslash escapes where the dialect has them.
- `readTriple`: literals enclosed in three quotes.
- `readEscaped`, `readUnicode`: literals with code escapes.
- `readDollar`, `readDelimited`: literals between other delimiters.
-/

namespace AssetFlow.Sql

/-- The character that `\c` stands for. -/
def backslashed : Char → Char
  | '0' => '\x00'
  | 'a' => '\x07'
  | 'b' => '\x08'
  | 'f' => '\x0c'
  | 'n' => '\n'
  | 'r' => '\r'
  | 't' => '\t'
  | 'Z' => '\x1a'
  | c => c

/-- What a backslash before `c` contributes to a literal. -/
def escapedBy (keepWildcards : Bool) (c : Char) : List Char :=
  if keepWildcards && (c == '%' || c == '_') then ['\\', c] else [backslashed c]

/-- Reads a literal in the quotes `q`. -/
def readLiteral (q : Char) (backslash keepWildcards : Bool) : List Char → Option (List Char × Nat)
  | [] => none
  | [c] => if c = q then some ([], 1) else none
  | c :: next :: rest =>
    if c = q then
      if next = q then
        (readLiteral q backslash keepWildcards rest).map fun (value, n) => (q :: value, n + 2)
      else some ([], 1)
    else if c = '\\' && backslash then
      (readLiteral q backslash keepWildcards rest).map fun (value, n) =>
        (escapedBy keepWildcards next ++ value, n + 2)
    else
      (readLiteral q backslash keepWildcards (next :: rest)).map fun (value, n) =>
        (c :: value, n + 1)

/-- Reads a literal enclosed in three quotes `q`. -/
def readTriple (q : Char) (backslash : Bool) : List Char → Option (List Char × Nat)
  | [] => none
  | c :: rest =>
    if c = q && (rest.take 2 == [q, q]) then some ([], 3)
    else if c = '\\' && backslash then
      match rest with
      | [] => none
      | next :: rest => (readTriple q backslash rest).map fun (value, n) =>
          (escapedBy false next ++ value, n + 2)
    else (readTriple q backslash rest).map fun (value, n) => (c :: value, n + 1)

/-- The value of a digit in bases up to sixteen. -/
def digitValue? (c : Char) : Option Nat :=
  if c.isDigit then some (c.toNat - '0'.toNat)
  else if 'a' ≤ c ∧ c ≤ 'f' then some (c.toNat - 'a'.toNat + 10)
  else if 'A' ≤ c ∧ c ≤ 'F' then some (c.toNat - 'A'.toNat + 10)
  else none

/-- The number spelled by the digits `cs` in a base. -/
def digitsValue? (base : Nat) (cs : List Char) : Option Nat :=
  cs.foldl
    (fun acc c => do
      let n ← acc
      let v ← digitValue? c
      if v < base then some (n * base + v) else none)
    (if cs.isEmpty then none else some 0)

/-- The character with this code point, unless it is no character or the null character. -/
def charOfCode? (n : Nat) : Option Char :=
  if n != 0 && n.isValidChar then some (Char.ofNat n) else none

/-- The character of the last byte of a code, which must be in ASCII and not the null character. -/
def charOfByte? (n : Nat) : Option Char :=
  if n % 256 ≤ 127 then charOfCode? (n % 256) else none

/-- The character whose code point is written in `count` hexadecimal digits; a plus sign may take
the place of the first one. -/
def codePoint? (count : Nat) (cs : List Char) : Option Char :=
  if cs.length < count then none
  else match cs.take count with
    | '+' :: digits => (digitsValue? 16 digits).bind charOfCode?
    | digits => (digitsValue? 16 digits).bind charOfCode?

/-- The character of a code escape and the length of the escape after its backslash. -/
def codeEscape? (cs : List Char) : Option (Char × Nat) :=
  match cs with
  | [] => none
  | 'b' :: _ => some ('\x08', 1)
  | 'f' :: _ => some ('\x0c', 1)
  | 'n' :: _ => some ('\n', 1)
  | 'r' :: _ => some ('\r', 1)
  | 't' :: _ => some ('\t', 1)
  | 'u' :: rest => (codePoint? 4 rest).map fun c => (c, 5)
  | 'U' :: rest => (codePoint? 8 rest).map fun c => (c, 9)
  | 'x' :: rest =>
    let digits := (rest.take 2).takeWhile fun c => (digitValue? c).isSome
    if digits.isEmpty then some ('x', 1)
    else ((digitsValue? 16 digits).bind charOfByte?).map fun c => (c, digits.length + 1)
  | '\x00' :: _ => none
  | c :: rest =>
    let digits := ((c :: rest).take 3).takeWhile fun c => '0' ≤ c ∧ c ≤ '7'
    if digits.isEmpty then some (c, 1)
    else ((digitsValue? 8 digits).bind charOfByte?).map fun c => (c, digits.length)

/-- Reads a literal with code escapes; `fuel` bounds the characters. -/
def readEscaped : (fuel : Nat) → List Char → Option (List Char × Nat)
  | 0, _ => none
  | _ + 1, [] => none
  | fuel + 1, c :: rest =>
    if c = '\'' then
      if rest.head? == some '\'' then
        (readEscaped fuel rest.tail).map fun (value, n) => ('\'' :: value, n + 2)
      else some ([], 1)
    else if c = '\\' then
      match codeEscape? rest with
      | none => none
      | some (escaped, length) =>
        (readEscaped fuel (rest.drop length)).map fun (value, n) =>
          (escaped :: value, n + length + 1)
    else (readEscaped fuel rest).map fun (value, n) => (c :: value, n + 1)

/-- The value and the length of a literal, or the distance to the place where it fails. -/
abbrev LiteralStep := Except Nat (List Char × Nat)

/-- A literal that goes on for `n` characters before `step`, which contribute the character `c`. -/
def LiteralStep.after (n : Nat) (c : Char) : LiteralStep → LiteralStep
  | .ok (value, length) => .ok (c :: value, length + n)
  | .error place => .error (place + n)

/-- The character whose code point is written in `count` hexadecimal digits, or the distance to the
place after the first character that is no digit. -/
def hexCodePoint (count : Nat) (cs : List Char) : Except Nat Char :=
  let digits := (cs.take count).takeWhile fun c => (digitValue? c).isSome
  if digits.length < count then
    .error (if digits.length = cs.length then cs.length else digits.length + 1)
  else match digitsValue? 16 digits with
    | some n => if n.isValidChar then .ok (Char.ofNat n) else .error count
    | none => .error count

/-- Reads a literal with code point escapes; `fuel` bounds the characters. -/
def readUnicode : (fuel : Nat) → List Char → LiteralStep
  | 0, _ => .error 0
  | _ + 1, [] => .error 0
  | fuel + 1, c :: rest =>
    if c = '\'' then
      if rest.head? == some '\'' then (readUnicode fuel rest.tail).after 2 '\''
      else .ok ([], 1)
    else if c = '\\' then
      match rest with
      | '\\' :: rest => (readUnicode fuel rest).after 2 '\\'
      | '+' :: rest =>
        match hexCodePoint 6 rest with
        | .ok c => (readUnicode fuel (rest.drop 6)).after 8 c
        | .error place => .error (place + 2)
      | rest =>
        match hexCodePoint 4 rest with
        | .ok c => (readUnicode fuel (rest.drop 4)).after 5 c
        | .error place => .error (place + 1)
    else (readUnicode fuel rest).after 1 c

/-- Reads up to the delimiter `closing`; the count includes it. -/
def readDollar (closing : List Char) : List Char → Option (List Char × Nat)
  | [] => none
  | c :: rest =>
    if closing.isPrefixOf (c :: rest) then some ([], closing.length)
    else (readDollar closing rest).map fun (value, n) => (c :: value, n + 1)

/-- The delimiter that closes a literal opened by the delimiter `c`. -/
def closingDelimiter : Char → Char
  | '[' => ']'
  | '\x7b' => '\x7d'
  | '<' => '>'
  | '(' => ')'
  | c => c

/-- Reads a literal between delimiters, from the opening one on: the delimiters, the value, and
the number of characters. A blank opens none. -/
def readDelimited (cs : List Char) : Except Nat (Option (Char × Char × List Char × Nat)) :=
  match cs with
  | [] => .error 1
  | c :: rest =>
    if c == ' ' || c == '\t' || c == '\r' || c == '\n' then .error 1
    else
      let closing := closingDelimiter c
      .ok <| (readDollar [closing, '\''] rest).map fun (value, n) => (c, closing, value, n + 1)

end AssetFlow.Sql
