import AssetFlow.Template.Value
import AssetFlow.Text.Blank

/-!
# Tokens of templates

A template is text with marked places: `{{ … }}` for expressions, `{% … %}` for statements and
`{# … #}` for comments. A dash at the inner side of a mark removes the blanks at its outer side.

## Main definitions

- `Token`: the tokens.
- `tokens`: the tokens of a template.
-/

namespace AssetFlow.Template

open Document (Binary64)

/-- A token of a template. -/
inductive Token
  | data (s : String)
  | exprStart
  | exprEnd
  | blockStart
  | blockEnd
  | ident (name : String)
  | str (s : String)
  | int (n : Nat)
  | float (x : Binary64)
  | op (sign : String)
  deriving BEq, Repr, Inhabited

namespace Token

/-- The place before which the first occurrence of `part` stands, and what follows it. -/
def cutAt? (part : List Char) : List Char → Option (List Char × List Char)
  | [] => if part.isEmpty then some ([], []) else none
  | c :: cs =>
    if part.isPrefixOf (c :: cs) then some ([], (c :: cs).drop part.length)
    else (cutAt? part cs).map fun (before, after) => (c :: before, after)

/-- Text up to the next mark, the second character of the mark, and what follows it. -/
def toMark : List Char → List Char × Option (Char × List Char)
  | '{' :: d :: rest =>
    if d == '{' || d == '%' || d == '#' then ([], some (d, rest))
    else
      let (before, found) := toMark (d :: rest)
      ('{' :: before, found)
  | c :: rest =>
    let (before, found) := toMark rest
    (c :: before, found)
  | [] => ([], none)

/-- The text without blanks at its start. -/
def withoutStart (cs : List Char) : List Char :=
  cs.dropWhile Text.isBlank

/-- The text without blanks at its end. -/
def withoutEnd (cs : List Char) : List Char :=
  (cs.reverse.dropWhile Text.isBlank).reverse

/-- The token of a stretch of text, if it is not empty. -/
def dataToken (cs : List Char) : List Token :=
  if cs.isEmpty then [] else [.data (String.ofList cs)]

/-- The sign that controls blanks at a mark, and what follows. -/
def blankSign : List Char → Option Char × List Char
  | '-' :: rest => (some '-', rest)
  | '+' :: rest => (some '+', rest)
  | cs => (none, cs)

/-- Reads what follows the start of a statement as one that is nothing but a name; answers whether
blanks after it are removed, and what follows it. -/
def bareBlock? (name : String) (cs : List Char) : Option (Bool × List Char) :=
  let cs := withoutStart cs
  if name.toList.isPrefixOf cs then
    let (sign, cs) := blankSign (withoutStart (cs.drop name.length))
    match cs with
    | '%' :: '}' :: rest => some (sign == some '-', rest)
    | _ => none
  else none

/-- Reads raw text up to its end: the text, whether blanks are removed at its end and after it, and
what follows. -/
def rawText : (fuel : Nat) → List Char → Option (List Char × Bool × Bool × List Char)
  | 0, _ => none
  | fuel + 1, cs => do
    let (before, after) ← cutAt? ['{', '%'] cs
    let (sign, inner) := blankSign after
    match bareBlock? "endraw" inner with
    | some (trims, rest) => some (before, sign == some '-', trims, rest)
    | none =>
      let (more, atEnd, trims, rest) ← rawText fuel after
      some (before ++ '{' :: '%' :: more, atEnd, trims, rest)

/-- The number of four hexadecimal digits. -/
def hexUnit? (cs : List Char) : Option (Nat × List Char) :=
  if cs.length < 4 then none
  else (Document.natIn? 16 (cs.take 4)).map fun n => (n, cs.drop 4)

/-- The text that a text with escapes stands for. -/
def unescape : (fuel : Nat) → List Char → Option (List Char)
  | 0, _ => some []
  | _ + 1, [] => some []
  | fuel + 1, '\\' :: c :: rest =>
    let simple (d : Char) := (unescape fuel rest).map (d :: ·)
    match c with
    | '"' | '\\' | '/' | '\'' => simple c
    | 'b' => simple '\x08'
    | 'f' => simple '\x0c'
    | 'n' => simple '\n'
    | 'r' => simple '\r'
    | 't' => simple '\t'
    | 'u' => do
      let (n, rest) ← hexUnit? rest
      if 0xd800 ≤ n && n < 0xdc00 then
        match rest with
        | '\\' :: 'u' :: rest =>
          let (m, rest) ← hexUnit? rest
          if 0xdc00 ≤ m && m < 0xe000 then
            return Char.ofNat (0x10000 + (n - 0xd800) * 0x400 + (m - 0xdc00)) ::
              (← unescape fuel rest)
          else none
        | _ => none
      else if 0xdc00 ≤ n && n < 0xe000 then none
      else return Char.ofNat n :: (← unescape fuel rest)
    | _ => none
  | fuel + 1, c :: rest => (unescape fuel rest).map (c :: ·)

/-- The inside of a text up to its closing quote, and what follows. -/
def quotedText (quote : Char) : List Char → Option (List Char × List Char)
  | [] => none
  | '\\' :: c :: rest =>
    (quotedText quote rest).map fun (inside, after) => ('\\' :: c :: inside, after)
  | c :: rest =>
    if c == quote then some ([], rest)
    else (quotedText quote rest).map fun (inside, after) => (c :: inside, after)

/-- The parts of a number. -/
inductive NumberPart
  | whole | fraction | exponent | exponentDigits
  deriving DecidableEq

/-- The part of a number that a character leads to, if it belongs to the number. -/
def numberPart? (part : NumberPart) (c : Char) : Option NumberPart :=
  match c, part with
  | '.', .whole => some .fraction
  | 'e', .whole | 'E', .whole | 'e', .fraction | 'E', .fraction => some .exponent
  | '+', .exponent | '-', .exponent => some .exponentDigits
  | '_', part => some part
  | c, part =>
    if c.isDigit then some (if part == .exponent then .exponentDigits else part) else none

/-- The characters of a decimal number, its last part, and what follows. -/
def numberText : NumberPart → List Char → List Char × NumberPart × List Char
  | part, [] => ([], part, [])
  | part, c :: rest => match numberPart? part c with
    | some next =>
      let (cs, last, after) := numberText next rest
      (c :: cs, last, after)
    | none => ([], part, c :: rest)

/-- The token of the characters of a number. -/
def numberToken? (base : Nat) (cs : List Char) (isWhole : Bool) : Option Token := do
  if cs.getLast? == some '_' then none
  let cs := cs.filter (· != '_')
  if isWhole then
    let n ← Document.natIn? base cs
    if n < Nat.pow 2 128 then some (.int n) else none
  else (Document.unsignedDecimal? false cs).map .float

/-- Reads a number. -/
def number (cs : List Char) : Option (Token × List Char) :=
  let inBase (base : Nat) (rest : List Char) := do
    let (ds, rest) := rest.span fun c =>
      c == '_' || c.isDigit || base == 16 && c.isAlpha && c.toLower ≤ 'f'
    return (← numberToken? base ds true, rest)
  match cs with
  | '0' :: 'x' :: rest | '0' :: 'X' :: rest => inBase 16 rest
  | '0' :: 'o' :: rest | '0' :: 'O' :: rest => inBase 8 rest
  | '0' :: 'b' :: rest | '0' :: 'B' :: rest => inBase 2 rest
  | cs => do
    let (cs, last, rest) := numberText .whole cs
    return (← numberToken? 10 cs (last == .whole), rest)

/-- The signs of two characters. -/
def longSigns : List String := ["//", "**", "==", "!=", ">=", "<="]

/-- The signs of one character. -/
def shortSigns : List Char :=
  ['+', '-', '*', '/', '%', '.', ',', ':', '~', '=', '>', '<', '|', '(', ')', '[', ']', '{', '}']

/-- How a sign changes the number of open brackets. -/
def nesting (c : Char) : Int :=
  if c == '(' || c == '[' || c == '{' then 1
  else if c == ')' || c == ']' || c == '}' then -1
  else 0

/-- Whether a character may be in a name; it may start one if it is no digit. -/
def isNameChar (c : Char) : Bool :=
  c.isAlphanum || c == '_'

/-- Where a token is read. -/
inductive Zone
  /-- Outside marks; the flag says whether blanks at the start are removed. -/
  | text (trims : Bool)
  /-- In an expression or a statement, at a depth of brackets. -/
  | code (isBlock : Bool) (depth : Int)

/-- The end of an expression or statement: whether blanks after it are removed, and what follows. -/
def codeEnd? (isBlock : Bool) (cs : List Char) : Option (Bool × List Char) :=
  match isBlock, cs with
  | true, '-' :: '%' :: '}' :: rest => some (true, rest)
  | true, '+' :: '%' :: '}' :: rest => some (false, rest)
  | true, '%' :: '}' :: rest => some (false, rest)
  | false, '-' :: '}' :: '}' :: rest => some (true, rest)
  | false, '}' :: '}' :: rest => some (false, rest)
  | _, _ => none

/-- Reads a token in code: the token, the change of depth, and what follows. -/
def codeToken (cs : List Char) : Except TemplateError (Token × Int × List Char) :=
  match cs with
  | [] => .error .syntaxFault
  | c :: rest =>
    if longSigns.contains (String.ofList (cs.take 2)) then
      .ok (.op (String.ofList (cs.take 2)), 0, cs.drop 2)
    else if shortSigns.contains c then .ok (.op (String.singleton c), nesting c, rest)
    else if c == '\'' || c == '"' then
      match quotedText c rest with
      | none => .error .syntaxFault
      | some (inside, after) => match unescape (inside.length + 1) inside with
        | some s => .ok (.str (String.ofList s), 0, after)
        | none => .error .badEscape
    else if c.isDigit then
      match number cs with
      | some (t, after) => .ok (t, 0, after)
      | none => .error .syntaxFault
    else if isNameChar c then
      let (name, after) := cs.span isNameChar
      .ok (.ident (String.ofList name), 0, after)
    else .error .syntaxFault

/-- Reads tokens. -/
def read : (fuel : Nat) → Zone → List Char → Except TemplateError (List Token)
  | 0, _, _ => .ok []
  | fuel + 1, .text trims, cs =>
    let (before, found) := toMark cs
    let before := if trims then withoutStart before else before
    match found with
    | none => .ok (dataToken before)
    | some (mark, after) =>
      let (sign, inner) := blankSign after
      let data := dataToken (if sign == some '-' then withoutEnd before else before)
      match mark with
      | '#' => match cutAt? ['#', '}'] inner with
        | none => .error .syntaxFault
        | some (comment, rest) =>
          return data ++ (← read fuel (.text (comment.getLast? == some '-')) rest)
      | '{' => return data ++ .exprStart :: (← read fuel (.code false 0) inner)
      | _ => match bareBlock? "raw" inner with
        | some (trimsRaw, rest) => match rawText (rest.length + 1) rest with
          | none => .error .syntaxFault
          | some (raw, atEnd, trims, rest) =>
            let raw := if trimsRaw then withoutStart raw else raw
            let raw := if atEnd then withoutEnd raw else raw
            return data ++ dataToken raw ++ (← read fuel (.text trims) rest)
        | none => return data ++ .blockStart :: (← read fuel (.code true 0) inner)
  | fuel + 1, .code isBlock depth, cs =>
    let cs := withoutStart cs
    if cs.isEmpty then .ok []
    else match if depth == 0 then codeEnd? isBlock cs else none with
      | some (trims, rest) =>
        return (if isBlock then .blockEnd else .exprEnd) :: (← read fuel (.text trims) rest)
      | none => do
        let (token, change, rest) ← codeToken cs
        return token :: (← read fuel (.code isBlock (depth + change)) rest)

end Token

/-- The tokens of a template. -/
def tokens (source : String) : Except TemplateError (List Token) :=
  Token.read (2 * source.length + 2) (.text false) source.toList

end AssetFlow.Template
