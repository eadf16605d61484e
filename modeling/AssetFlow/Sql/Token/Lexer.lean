import AssetFlow.Sql.Token.Literal
import AssetFlow.Text.Blank

/-!
# From text to tokens

`Token.scan` splits SQL text into located tokens, or says where it cannot. One step reads a
single lexeme: a token or a stretch of blanks, with its length. Every step consumes at least one
character, so the length of the text bounds the steps.

## Main definitions

- `Lexeme`: what one step reads.
- `readLexeme`: one step.
- `Token.scan`: all tokens of a text.
-/

namespace AssetFlow.Sql

/-- What one step reads. -/
inductive LexemeKind
  | token (t : Token)
  | blank
  | lineBreak
  /-- A comment, with its mark and the text after it. -/
  | comment (mark text : String)

/-- What one step reads, and its length. -/
structure Lexeme where
  kind : LexemeKind
  length : Nat

/-- One step, or the distance from its first character to the place where it fails. -/
abbrev LexStep := Except Nat Lexeme

namespace Lexeme

/-- A token of `n` characters. -/
def ofToken (t : Token) (n : Nat) : LexStep :=
  .ok ⟨.token t, n⟩

/-- One blank. -/
def blank : LexStep :=
  .ok ⟨.blank, 1⟩

end Lexeme

/-- The word made of the first `n` characters and all that continue an identifier. -/
def readWord (d : Dialect) (n : Nat) (cs : List Char) : LexStep :=
  let text := cs.take n ++ (cs.drop n).takeWhile d.continuesIdentifier
  let s := String.ofList text
  if text.all fun c => c.isDigit || c == '.' then
    let more := (cs.drop text.length).takeWhile fun c => c.isDigit || c == '.'
    Lexeme.ofToken (.number (s ++ String.ofList more) false) (text.length + more.length)
  else Lexeme.ofToken (Token.plainWord s) text.length

/-- A plain word, even if only its first character may start it. -/
def readLetterWord (d : Dialect) (cs : List Char) : LexStep :=
  let text := cs.take 1 ++ (cs.drop 1).takeWhile d.continuesIdentifier
  Lexeme.ofToken (Token.plainWord (String.ofList text)) text.length

/-- The token of a literal that was read after `skipped` characters, or a failure at `failAt`. -/
def literalToken (style : StringStyle) (skipped failAt : Nat) :
    Option (List Char × Nat) → LexStep
  | some (value, n) => Lexeme.ofToken (.string style (String.ofList value)) (skipped + n)
  | none => .error failAt

/-- A literal in the quotes `q` whose opening quote is the character number `skipped`. Where
`triples` holds, two quotes are an empty literal and three open a triple one. -/
def readString (d : Dialect) (triples : Bool) (q : Char) (plain tripled : StringStyle)
    (backslash : Bool) (skipped : Nat) (cs : List Char) : LexStep :=
  let body := cs.drop (skipped + 1)
  let wild := d.keepsWildcardEscapes
  if triples then
    if body.take 2 == [q, q] then
      literalToken tripled (skipped + 3) (skipped + 3) (readTriple q backslash (body.drop 2))
    else if body.head? == some q then Lexeme.ofToken (.string plain "") (skipped + 2)
    else literalToken plain (skipped + 1) (skipped + 1) (readLiteral q backslash wild body)
  else literalToken plain (skipped + 1) skipped (readLiteral q backslash wild body)

/-- A literal between delimiters whose quote is the character number `skipped`. -/
def readDelimitedString (style : Char → Char → StringStyle) (skipped : Nat) (cs : List Char) :
    LexStep :=
  match readDelimited (cs.drop (skipped + 1)) with
  | .ok (some (opening, closing, value, n)) =>
    Lexeme.ofToken (.string (style opening closing) (String.ofList value)) (skipped + 1 + n)
  | .ok none => .error skipped
  | .error place => .error (skipped + place)

/-- The digits at the start of `cs`; in some dialects an underscore may separate two of them. -/
def takeDigits (d : Dialect) (isDigit : Char → Bool) : List Char → List Char
  | [] => []
  | c :: rest =>
    if isDigit c then c :: takeDigits d isDigit rest
    else if d.groupedDigits && c == '_' &&
        (match rest with | n :: _ => (digitValue? n).isSome | [] => false) then
      c :: takeDigits d isDigit rest
    else []

/-- The exponent at the start of `cs`, if it has a digit. -/
def takeExponent (cs : List Char) : List Char :=
  match cs with
  | e :: rest =>
    if e == 'e' || e == 'E' then
      let sign := rest.takeWhile fun c => c == '+' || c == '-'
      let digits := (rest.drop sign.length).takeWhile Char.isDigit
      if sign.length ≤ 1 && !digits.isEmpty then e :: sign ++ digits else []
    else []
  | [] => []

/-- A number, a period, or a word that starts with digits. -/
def readNumber (d : Dialect) (prev : Option Token) (cs : List Char) : LexStep :=
  let afterWord := match prev with | some t => t.isWord | none => false
  if cs.take 2 == ['.', '_'] then
    if afterWord then Lexeme.ofToken (.symbol ".") 1 else .error 0
  else
    let whole := takeDigits d Char.isDigit cs
    let rest := cs.drop whole.length
    if whole == ['0'] && rest.head? == some 'x' then
      let digits := takeDigits d (fun c => (digitValue? c).isSome) rest.tail
      Lexeme.ofToken (.string .hex (String.ofList digits)) (2 + digits.length)
    else
      let point := rest.takeWhile (· == '.') |>.take 1
      let fraction := takeDigits d Char.isDigit (rest.drop point.length)
      let mantissa := whole ++ point ++ (if point.isEmpty then [] else fraction)
      if point == mantissa || (whole.isEmpty && d.numericPrefixes && afterWord) then
        Lexeme.ofToken (.symbol ".") 1
      else
        let exponent := takeExponent (cs.drop mantissa.length)
        let text := mantissa ++ exponent
        let rest := cs.drop text.length
        let suffix := rest.takeWhile d.continuesIdentifier
        if d.numericPrefixes && exponent.isEmpty && !suffix.isEmpty then
          let word := text ++ suffix
          Lexeme.ofToken (Token.plainWord (String.ofList word)) word.length
        else if d.numericPrefixes && !exponent.isEmpty && prev == some (.symbol ".") then
          Lexeme.ofToken (Token.plainWord (String.ofList text)) text.length
        else if rest.head? == some 'L' then
          Lexeme.ofToken (.number (String.ofList text) true) (text.length + 1)
        else Lexeme.ofToken (.number (String.ofList text) false) text.length

/-- A comment with the mark `mark` up to the end of its line, which it includes. -/
def readLineComment (d : Dialect) (mark : String) (cs : List Char) : LexStep :=
  let body := cs.drop mark.length
  let line := body.takeWhile fun c => c != '\n' && !(d.returnEndsComments && c == '\r')
  let text := body.take (line.length + 1)
  .ok ⟨.comment mark (String.ofList text), mark.length + text.length⟩

/-- The length of a block comment after its opening mark; `depth` counts the open marks. -/
def blockCommentLength (nested : Bool) (depth : Nat) : List Char → Option Nat
  | [] => none
  | [_] => none
  | a :: b :: rest =>
    if nested && a = '/' && b = '*' then
      (blockCommentLength nested (depth + 1) rest).map (· + 2)
    else if a = '*' && b = '/' then
      if depth ≤ 1 then some 2
      else (blockCommentLength nested (depth - 1) rest).map (· + 2)
    else (blockCommentLength nested depth (b :: rest)).map (· + 1)

/-- A placeholder that starts with a dollar sign, or a literal between dollar signs. -/
def readDollarToken (cs : List Char) : LexStep :=
  let rest := cs.drop 1
  if rest.head? == some '$' then
    match readDollar ['$', '$'] rest.tail with
    | some (value, n) => Lexeme.ofToken (.string (.dollar "") (String.ofList value)) (2 + n)
    | none => .error cs.length
  else
    let tag := rest.takeWhile fun c => Text.isAlphanumeric c || c == '_'
    if (rest.drop tag.length).head? == some '$' then
      let closing := '$' :: tag ++ ['$']
      match readDollar closing (rest.drop (tag.length + 1)) with
      | some (value, n) =>
        Lexeme.ofToken (.string (.dollar (String.ofList tag)) (String.ofList value))
          (tag.length + 2 + n)
      | none => .error cs.length
    else Lexeme.ofToken (.placeholder (String.ofList ('$' :: tag))) (tag.length + 1)

/-- Operators on geometric values, longest first. -/
def geometricSymbols : List String :=
  ["<<|", "<->", "&<|", "|&>", "|>>", "@-@", "?||", "?-|", "<|", "<^", "&>", "&<", ">^", "~=",
    "##", "@@", "?|", "?&", "?-", "?#", "?"]

/-- Beginnings of geometric operators that are no operators themselves. -/
def danglingSymbols : List String :=
  ["|&", "|>", "<-", "@-"]

/-- Symbols of two and more characters, longest first. -/
def longSymbols : List String :=
  ["!~~*", "->>", "<=>", "||/", "!~~", "!~*", "~~*", "#>>", "->", "<=", "<>", "<<", "<@", ">=",
    ">>", "||", "|/", "==", "=>", "!=", "!!", "!~", "::", ":=", "&&", "^@", "~~", "~*", "#-",
    "#>", "@>", "@?", "@@"]

/-- Symbols of one character. -/
def shortSymbols : List Char :=
  "(),-/+*%|=!<>:;\\[]&^\x7b\x7d~#@.".toList

/-- Symbols that operator characters may lengthen. -/
def extensibleSymbols : List String :=
  ["-", "->", "->>", "%", "|", "||", "|/", "||/", "|&>", "|>>", "<", "<=", "<=>", "<>", "<<", "<@",
    "<<|", "<|", "<->", "<^", ">", ">=", ">>", ">^", "&", "&&", "&<", "~", "~*", "~~", "~~*", "~=",
    "#", "#-", "#>", "#>>", "##"] ++ danglingSymbols

/-- The canonical spelling of a symbol. -/
def canonicalSymbol : String → String
  | "!=" => "<>"
  | "<|" => "<<|"
  | s => s

/-- The token of the symbol spelled `s`, lengthened where the dialect allows it. The symbol `&>`
takes the character after it along. -/
def symbolToken (d : Dialect) (s : String) (cs : List Char) : LexStep :=
  let more := (cs.drop s.length).takeWhile d.continuesOperator
  if extensibleSymbols.contains s && !more.isEmpty then
    Lexeme.ofToken (.customOperator (canonicalSymbol s ++ String.ofList more))
      (s.length + more.length)
  else if danglingSymbols.contains s && d.geometricOperators then .error s.length
  else if s == "&>" then Lexeme.ofToken (.symbol s) (min cs.length 3)
  else Lexeme.ofToken (.symbol (canonicalSymbol s)) s.length

/-- The symbol at the start of `cs`, if any. -/
def symbolAt? (d : Dialect) (cs : List Char) : Option String :=
  let candidates :=
    (if d.geometricOperators then geometricSymbols ++ danglingSymbols else []) ++
      (if d.integerDivision then ["//"] else []) ++
      (if d.pipeOperators then ["|>"] else []) ++ longSymbols
  match candidates.find? fun s => s.toList.isPrefixOf cs with
  | some s => some s
  | none => match cs with
    | c :: _ => if shortSymbols.contains c then some (String.singleton c) else none
    | [] => none

/-- A quoted identifier, if `cs` starts with one. -/
def quotedIdentifier? (d : Dialect) (cs : List Char) : Option LexStep :=
  match cs with
  | [] => none
  | c :: rest =>
    if d.opensQuotedIdentifier c then
      let closing := if c == '[' then ']' else c
      some <| match readQuoted closing rest with
        | some (value, n) => Lexeme.ofToken (.word (String.ofList value) (some c) "") (n + 1)
        | none => .error 0
    else if d.bracketPaths && c == '[' then
      let inside := rest.dropWhile Text.isBlank
      let blanks := rest.length - inside.length
      match inside with
      | '"' :: body =>
        match readQuoted '"' body with
        | none => some (.error (blanks + 1))
        | some (value, n) =>
          let after := (body.drop n).dropWhile Text.isBlank
          match after with
          | ']' :: left =>
            some (Lexeme.ofToken (.word ("\"" ++ String.ofList value ++ "\"") (some '[') "")
              (cs.length - left.length))
          | _ => some (.error 0)
      | first :: _ =>
        if d.startsIdentifier first then
          some <| match readQuoted ']' rest with
            | some (value, n) => Lexeme.ofToken (.word (String.ofList value) (some '[') "") (n + 1)
            | none => .error 0
        else none
      | [] => none
    else none

/-- A literal introduced by a letter, if `cs` starts with one. -/
def introducedLiteral? (d : Dialect) (cs : List Char) : Option LexStep :=
  match cs with
  | letter :: q :: rest =>
    let plain := q == '\''
    let triples := d.tripleQuotedStrings
    match letter.toLower with
    | 'b' =>
      if d.byteStrings && plain then
        some (readString d triples q .byteSingle .byteTripleSingle false 1 cs)
      else if d.byteStrings && q == '"' then
        some (readString d triples q .byteDouble .byteTripleDouble false 1 cs)
      else none
    | 'r' =>
      if d.rawStrings && plain then
        some (readString d true q .rawSingle .rawTripleSingle false 1 cs)
      else if d.rawStrings && q == '"' then
        some (readString d true q .rawDouble .rawTripleDouble false 1 cs)
      else none
    | 'n' =>
      if plain then
        some (literalToken .national 2 1
          (readLiteral q d.backslashEscapes d.keepsWildcardEscapes rest))
      else if d.delimitedStrings && q.toLower == 'q' && rest.head? == some '\'' then
        some (readDelimitedString .nationalDelimited 2 cs)
      else none
    | 'q' =>
      if d.delimitedStrings && plain then some (readDelimitedString .delimited 1 cs) else none
    | 'e' =>
      if d.escapeStrings && plain then
        some (literalToken .escaped 2 0 (readEscaped (rest.length + 1) rest))
      else none
    | 'u' =>
      match rest with
      | '\'' :: body =>
        if d.unicodeStrings && q == '&' then
          some <| match readUnicode (body.length + 1) body with
            | .ok (value, n) => Lexeme.ofToken (.string .unicode (String.ofList value)) (n + 3)
            | .error place => .error (place + 3)
        else none
      | _ => none
    | 'x' =>
      if plain then some (literalToken .hex 2 1 (readLiteral q true d.keepsWildcardEscapes rest))
      else none
    | _ => none
  | _ => none

/-- A comment, if `cs` starts with one. -/
def comment? (d : Dialect) (cs : List Char) : Option LexStep :=
  match cs with
  | '-' :: '-' :: rest =>
    if d.dashCommentsNeedBlank && !(rest.head?.any Text.isBlank) then none
    else some (readLineComment d "--" cs)
  | '/' :: '*' :: rest =>
    some <| match blockCommentLength d.nestedComments 1 rest with
      | some n => .ok ⟨.comment "/*" (String.ofList (rest.take (n - 2))), n + 2⟩
      | none => .error cs.length
  | '/' :: '/' :: _ => if d.slashComments then some (readLineComment d "//" cs) else none
  | '#' :: _ => if d.hashComments then some (readLineComment d "#" cs) else none
  | _ => none

/-- A word that starts with a sign, if `cs` starts with one. -/
def signedWord? (d : Dialect) (cs : List Char) : Option LexStep :=
  match cs with
  | '#' :: c :: _ =>
    if c == '-' || c == '>' || c == ' ' || (d.geometricOperators && c == '#') then none
    else if d.startsIdentifier '#' then some (readWord d 2 cs) else none
  | '@' :: '@' :: c :: _ =>
    if d.geometricOperators || c == ' ' then none
    else if d.startsIdentifier '@' then some (readWord d 3 cs) else none
  | '@' :: c :: _ =>
    if c == '>' || c == '?' || c == '@' || c == ' ' || c == '\'' || c == '"' || c == '\x60' then
      none
    else if d.startsIdentifier '@' then some (readWord d 2 cs) else none
  | _ => none

/-- Reads one lexeme of a text that is not empty. `prev` is the token just before it, if no blank
lies between. -/
def readLexeme (d : Dialect) (prev : Option Token) (c : Char) (rest : List Char) : LexStep :=
  let cs := c :: rest
  if c == ' ' || c == '\t' then Lexeme.blank
  else if c == '\n' then .ok ⟨.lineBreak, 1⟩
  else if c == '\r' then .ok ⟨.lineBreak, if rest.head? == some '\n' then 2 else 1⟩
  else if let some step := introducedLiteral? d cs then step
  else if (c == 'n' || c == 'N' || c == 'x' || c == 'X') then readLetterWord d cs
  else if c == '\'' then
    readString d d.tripleQuotedStrings c .single .tripleSingle d.backslashEscapes 0 cs
  else if let some step := quotedIdentifier? d cs then step
  else if c == '"' then
    readString d d.tripleQuotedStrings c .double .tripleDouble d.backslashEscapes 0 cs
  else if c.isDigit || c == '.' then readNumber d prev cs
  else if let some step := comment? d cs then step
  else if let some step := signedWord? d cs then step
  else if let some s := (if c == '$' && d.startsIdentifier '$' then none else symbolAt? d cs) then
    symbolToken d s cs
  else if c == '?' then
    let digits := rest.takeWhile Text.isNumeric
    Lexeme.ofToken (.placeholder (String.ofList (c :: digits))) (digits.length + 1)
  else if d.startsIdentifier c then readWord d 1 cs
  else if c == '$' then readDollarToken cs
  else if Text.isBlank c then Lexeme.blank
  else Lexeme.ofToken (.stray c) 1

/-- What has been read of a text. -/
structure Scanned where
  tokens : Array LocatedToken := #[]
  /-- The token just before, if no blank lies between. -/
  prev : Option Token := none
  /-- What has been read since the last token. -/
  gap : Gap := {}

namespace Scanned

/-- Adds a token with its extent. -/
def addToken (s : Scanned) (t : Token) (start stop : Position) : Scanned :=
  ⟨s.tokens.push ⟨t, start, stop, s.gap⟩, some t, {}⟩

/-- Adds a blank, which may break the line. -/
def addBlank (s : Scanned) (broken : Bool) : Scanned :=
  { s with prev := none, gap := { s.gap with spaced := true, broken := s.gap.broken || broken } }

/-- Adds a comment. -/
def addComment (s : Scanned) (mark text : String) : Scanned :=
  { s with
    prev := none
    gap := { s.gap with spaced := true, comment := s.gap.comment <|> some (mark, text) } }

end Scanned

/-- Adds what `cs` consists of to `s`; `cs` starts at `pos`, `comment` adds a comment, and `fuel`
bounds the steps. -/
def scanFrom (d : Dialect)
    (comment : String → String → Position → Scanned → Except Position Scanned) :
    (fuel : Nat) → (pos : Position) → List Char → Scanned → Except Position Scanned
  | 0, _, _, s => .ok s
  | fuel + 1, pos, cs, s =>
    match cs with
    | [] => .ok s
    | c :: rest =>
      match readLexeme d s.prev c rest with
      | .error n => .error (pos.after (cs.take n))
      | .ok ⟨kind, n⟩ => do
        let stop := pos.after (cs.take n)
        let s ← match kind with
          | .token t => .ok (s.addToken t pos stop)
          | .blank => .ok (s.addBlank false)
          | .lineBreak => .ok (s.addBlank true)
          | .comment mark text => comment mark text pos s
        scanFrom d comment fuel stop (cs.drop n) s

/-- The text inside a comment that the dialect reads as part of the statement: it follows an
exclamation mark and the digits of a version. -/
def hintText? (d : Dialect) (mark text : String) : Option (List Char) :=
  match text.toList with
  | '!' :: rest =>
    if d.commentHints && mark == "/*" then some (rest.dropWhile Char.isDigit) else none
  | _ => none

/-- Adds a comment, or the tokens inside one that the dialect reads. Those are placed as if they
stood where the comment starts. -/
def scanComment (d : Dialect) (mark text : String) (pos : Position) (s : Scanned) :
    Except Position Scanned :=
  match hintText? d mark text with
  | some cs =>
    scanFrom d (fun mark text _ s => .ok (s.addComment mark text)) (cs.length + 1) pos cs s
  | none => .ok (s.addComment mark text)

/-- The tokens of a text, or the position where it cannot be split into tokens. -/
def Token.scan (d : Dialect) (text : String) : Except Position (Array LocatedToken) := do
  let cs := text.toList
  return (← scanFrom d (scanComment d) (cs.length + 1) Position.start cs {}).tokens

end AssetFlow.Sql
