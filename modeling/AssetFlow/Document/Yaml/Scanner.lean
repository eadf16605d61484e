import AssetFlow.Document.Yaml.Token

/-!
# From characters to tokens

Indentation becomes brackets: where a line is indented more deeply than before and starts an entry
or a key, a block starts, and where it is indented less deeply, blocks end. A key that is not
marked as one is known by the colon after it; since the colon comes late, the place of every token
that may be such a key is remembered, and the tokens before the key are put there afterwards.

## Main definitions

- `Scanner`: the state of the scanner.
- `scan`: the tokens of a text, if it has a row of them.
-/

namespace AssetFlow.Document.Yaml

/-- A token that may turn out to be a key. -/
structure PossibleKey where
  /-- Whether there must be a colon after it. -/
  required : Bool
  /-- The number of tokens before it. -/
  number : Nat
  index : Nat
  line : Nat
  column : Nat
  deriving DecidableEq, Repr, Inhabited

/-- The state of the scanner. -/
structure Scanner where
  rest : List Char
  index : Nat := 0
  line : Nat := 0
  column : Nat := 0
  tokens : List Token := []
  flowLevel : Nat := 0
  /-- The column of the innermost block. -/
  indent : Int := -1
  /-- The columns of the blocks around it, innermost first. -/
  outer : List Int := []
  /-- Whether a key may start here. -/
  keyAllowed : Bool := true
  /-- The possible key of each flow level, innermost first. -/
  keys : List (Option PossibleKey) := [none]
  deriving Repr

/-- A step of the scanner, which may fail. -/
abbrev Scan := StateT Scanner Option

namespace Scan

/-- The character `n` places ahead. -/
def at? (n : Nat) : Scan (Option Char) := do
  return (← get).rest[n]?

/-- Whether the character `n` places ahead is `c`. -/
def isAt (n : Nat) (c : Char) : Scan Bool := do
  return (← at? n) == some c

/-- Whether a character of a class is `n` places ahead. -/
def testAt (n : Nat) (f : Char → Bool) : Scan Bool := do
  match ← at? n with
  | some c => return f c
  | none => return false

/-- Whether a blank, a break or the end is `n` places ahead. -/
def blankOrEndAt (n : Nat) : Scan Bool := do
  match ← at? n with
  | some c => return isSpace c || isBreak c
  | none => return true

/-- Whether a break or the end comes next. -/
def breakOrEnd : Scan Bool := do
  match ← at? 0 with
  | some c => return isBreak c
  | none => return true

/-- Takes a character that is no break. -/
def skip : Scan Unit :=
  modify fun s => { s with rest := s.rest.tail, index := s.index + 1, column := s.column + 1 }

/-- Takes `n` characters that are no breaks. -/
def skipN : Nat → Scan Unit
  | 0 => return
  | n + 1 => do
    skip
    skipN n

/-- Takes a break and answers what it counts as. -/
def lineBreak : Scan (List Char) := do
  let s ← get
  let next (n : Nat) : Scanner :=
    { s with rest := s.rest.drop n, index := s.index + n, line := s.line + 1, column := 0 }
  match s.rest with
  | '\r' :: '\n' :: _ =>
    set (next 2)
    return ['\n']
  | c :: _ =>
    if isBreak c then
      set (next 1)
      return if c.toNat == 0x2028 || c.toNat == 0x2029 then [c] else ['\n']
    else return []
  | [] => return []

/-- Takes characters of a class. -/
def takeWhile (f : Char → Bool) : Scan (List Char) := do
  let s ← get
  let taken := s.rest.takeWhile f
  let n := taken.length
  set { s with rest := s.rest.drop n, index := s.index + n, column := s.column + n }
  return taken

/-- As many turns as a loop over what is left can take. -/
def turns : Scan Nat := do
  return (← get).rest.length + 2

/-- Repeats a step until it answers no. -/
def repeatUpTo (step : Scan Bool) : Nat → Scan Unit
  | 0 => return
  | n + 1 => do
    if ← step then repeatUpTo step n

/-- Repeats a step until it answers no. -/
def loop (step : Scan Bool) : Scan Unit := do
  repeatUpTo step (← turns)

/-- Adds a token. -/
def emit (t : Token) : Scan Unit :=
  modify fun s => { s with tokens := s.tokens ++ [t] }

/-- Puts a token before the token with a number. -/
def emitAt (n : Nat) (t : Token) : Scan Unit :=
  modify fun s => { s with tokens := s.tokens.take n ++ t :: s.tokens.drop n }

/-! ### Keys and indentation -/

/-- Forgets the possible key of the innermost level; it must not be required. -/
def forgetKey : Scan Unit := do
  let s ← get
  match s.keys with
  | some k :: outer =>
    if k.required then failure
    set { s with keys := none :: outer }
  | _ => return

/-- Remembers that a key may start here. -/
def rememberKey : Scan Unit := do
  let s ← get
  if s.keyAllowed then
    let required := s.flowLevel == 0 && s.indent == s.column
    forgetKey
    modify fun s => { s with
      keys := some ⟨required, s.tokens.length, s.index, s.line, s.column⟩ :: s.keys.tail }

/-- Forgets possible keys that lie on earlier lines or too far back. -/
def dropStaleKeys : Scan Unit := do
  let s ← get
  let keys ← s.keys.mapM fun k? =>
    match k? with
    | some k =>
      if k.line < s.line || k.index + 1024 < s.index then
        if k.required then failure else pure none
      else pure (some k)
    | none => pure none
  set { s with keys }

/-- Starts a block at a column, unless one is open there; its token is put before the token with
the number, if one is given. -/
def rollIndent (column : Nat) (number : Option Nat) (t : Token) : Scan Unit := do
  let s ← get
  if s.flowLevel == 0 && s.indent < column then
    set { s with indent := column, outer := s.indent :: s.outer }
    match number with
    | some n => emitAt n t
    | none => emit t

/-- Ends the blocks to the right of a column. -/
def unrollIndent (column : Int) : Scan Unit := do
  let s ← get
  if s.flowLevel == 0 then
    let rec go : List Int → Int → Scan Unit
      | [], _ => return
      | i :: outer, indent => do
        if indent > column then
          modify fun s => { s with indent := i, outer }
          emit .blockEnd
          go outer i
    go s.outer s.indent

/-- Sets whether a key may start here. -/
def allowKey (b : Bool) : Scan Unit :=
  modify fun s => { s with keyAllowed := b }

/-! ### Scalars -/

/-- Whether a line starts here with three equal marks for the start or the end of a document. -/
def atDocumentMark : Scan Bool := do
  let s ← get
  if s.column != 0 then return false
  let marks := s.rest.take 3
  if marks == ['-', '-', '-'] || marks == ['.', '.', '.'] then blankOrEndAt 3 else return false

/-- Breaks within a scalar: the first one, and those after it. -/
structure Breaks where
  leading : List Char := []
  trailing : List Char := []
  blanks : List Char := []
  /-- Whether there was a break. -/
  broken : Bool := false

/-- What blanks and breaks within a scalar count as. -/
def Breaks.folded (b : Breaks) : List Char :=
  if b.broken then
    if b.leading.head? == some '\n' then
      if b.trailing.isEmpty then [' '] else b.trailing
    else b.leading ++ b.trailing
  else b.blanks

/-- Takes blanks and breaks. Tabs must not stand left of the column `indent`. -/
def takeBreaks (b : Breaks) (indent : Option Int) : Nat → Scan Breaks
  | 0 => return b
  | n + 1 => do
    match ← at? 0 with
    | some c =>
      if isSpace c then
        if b.broken && c == '\t' then
          match indent with
          | some i => if ((← get).column : Int) < i then failure
          | none => pure ()
        skip
        takeBreaks (if b.broken then b else { b with blanks := b.blanks ++ [c] }) indent n
      else if isBreak c then
        let l ← lineBreak
        takeBreaks
          (if b.broken then { b with trailing := b.trailing ++ l }
            else { b with blanks := [], leading := l, broken := true })
          indent n
      else return b
    | none => return b

/-- The value of hexadecimal digits. -/
def hexValue? (cs : List Char) : Option Nat :=
  cs.foldlM
    (fun n c =>
      if c.isDigit then some (n * 16 + (c.toNat - '0'.toNat))
      else if 'a' ≤ c && c ≤ 'f' then some (n * 16 + (c.toNat - 'a'.toNat + 10))
      else if 'A' ≤ c && c ≤ 'F' then some (n * 16 + (c.toNat - 'A'.toNat + 10))
      else none)
    0

/-- The character of an escape in double quotes, read after the backslash. -/
def escape : Scan Char := do
  let some c ← at? 0 | failure
  skip
  let byNumber (digits : Nat) : Scan Char := do
    let ds := (← get).rest.take digits
    if ds.length < digits then failure
    let some n := hexValue? ds | failure
    if n > 0x10ffff || (0xd800 ≤ n && n ≤ 0xdfff) then failure
    skipN digits
    return Char.ofNat n
  match c with
  | '0' => return Char.ofNat 0
  | 'a' => return Char.ofNat 7
  | 'b' => return Char.ofNat 8
  | 't' | '\t' => return '\t'
  | 'n' => return '\n'
  | 'v' => return Char.ofNat 11
  | 'f' => return Char.ofNat 12
  | 'r' => return '\r'
  | 'e' => return Char.ofNat 27
  | ' ' | '"' | '/' | '\\' => return c
  | 'N' => return Char.ofNat 0x85
  | '_' => return Char.ofNat 0xa0
  | 'L' => return Char.ofNat 0x2028
  | 'P' => return Char.ofNat 0x2029
  | 'x' => byNumber 2
  | 'u' => byNumber 4
  | 'U' => byNumber 8
  | _ => failure

/-- Takes the characters of a quoted scalar up to a blank, a break or the quote; the answer says
whether it stopped after an escaped break. -/
def quotedRun (single : Bool) : Nat → List Char → Scan (List Char × Bool)
  | 0, acc => return (acc, false)
  | n + 1, acc => do
    match ← at? 0 with
    | none => return (acc, false)
    | some c =>
      if isSpace c || isBreak c then return (acc, false)
      else if single && c == '\'' then
        if ← isAt 1 '\'' then
          skipN 2
          quotedRun single n (acc ++ ['\''])
        else return (acc, false)
      else if !single && c == '"' then return (acc, false)
      else if !single && c == '\\' then
        if ← testAt 1 isBreak then
          skip
          let _ ← lineBreak
          return (acc, true)
        else
          skip
          let e ← escape
          quotedRun single n (acc ++ [e])
      else
        skip
        quotedRun single n (acc ++ [c])

/-- The rest of a quoted scalar, with its closing quote. -/
def quotedRest (single : Bool) : Nat → List Char → Scan (List Char)
  | 0, _ => failure
  | n + 1, acc => do
    if ← atDocumentMark then failure
    if (← at? 0).isNone then failure
    let (acc, broken) ← quotedRun single (← turns) acc
    let quote := if single then '\'' else '"'
    if ← isAt 0 quote then
      skip
      return acc
    let b ← takeBreaks { broken } none (← turns)
    quotedRest single n (acc ++ b.folded)

/-- A quoted scalar. -/
def quoted (single : Bool) : Scan Token := do
  skip
  let cs ← quotedRest single (← turns) []
  return .scalar (String.ofList cs) (if single then .single else .double)

/-- Takes the characters of a plain scalar up to a blank, a break or a mark; `pending` are the
blanks and breaks before them, which count only if characters follow. -/
def plainRun : Nat → List Char → Breaks → Scan (List Char × Breaks)
  | 0, acc, pending => return (acc, pending)
  | n + 1, acc, pending => do
    match ← at? 0 with
    | none => return (acc, pending)
    | some c =>
      let inFlow := (← get).flowLevel > 0
      if isSpace c || isBreak c then return (acc, pending)
      else if inFlow && c == ':' && (← testAt 1 [',', '?', '[', ']', '{', '}'].contains) then
        failure
      else if c == ':' && (← blankOrEndAt 1) then return (acc, pending)
      else if inFlow && [',', '[', ']', '{', '}'].contains c then return (acc, pending)
      else
        skip
        plainRun n (acc ++ pending.folded ++ [c]) {}

/-- The rest of a plain scalar. -/
def plainRest (indent : Int) : Nat → List Char → Breaks → Scan (List Char × Breaks)
  | 0, acc, pending => return (acc, pending)
  | n + 1, acc, pending => do
    if ← atDocumentMark then return (acc, pending)
    if ← isAt 0 '#' then return (acc, pending)
    let (acc, pending) ← plainRun (← turns) acc pending
    if !(← testAt 0 fun c => isSpace c || isBreak c) then return (acc, pending)
    let pending ← takeBreaks pending (some indent) (← turns)
    let s ← get
    if s.flowLevel == 0 && (s.column : Int) < indent then return (acc, pending)
    plainRest indent n acc pending

/-- A plain scalar. -/
def plain : Scan Token := do
  let indent := (← get).indent + 1
  let (cs, pending) ← plainRest indent (← turns) [] {}
  if pending.broken then allowKey true
  return .scalar (String.ofList cs) .plain

/-- Takes the empty lines and the indentation before a line of a block scalar. The answer is the
column of the scalar, which the first line decides if it is zero, and the breaks. -/
def blockBreaks (indent : Nat) : Scan (Nat × List Char) := do
  let rec go : Nat → Nat → List Char → Scan (Nat × List Char)
    | 0, deepest, breaks => return (deepest, breaks)
    | n + 1, deepest, breaks => do
      loop do
        let s ← get
        if (indent == 0 || s.column < indent) && s.rest.head? == some ' ' then
          skip
          return true
        return false
      let s ← get
      let deepest := max deepest s.column
      if (indent == 0 || s.column < indent) && s.rest.head? == some '\t' then failure
      if ← testAt 0 isBreak then
        let l ← lineBreak
        go n deepest (breaks ++ l)
      else return (deepest, breaks)
  let (deepest, breaks) ← go (← turns) 0 []
  let least := max ((← get).indent + 1).toNat 1
  return (if indent == 0 then max deepest least else indent, breaks)

/-- How the end of a block scalar is treated. -/
inductive Chomping
  | strip | clip | keep
  deriving DecidableEq, Repr

/-- The lines of a block scalar at a column. -/
def blockLines (folded : Bool) : Nat → Nat → List Char → List Char → List Char → Bool →
    Scan (List Char × List Char × List Char)
  | 0, _, acc, leading, trailing, _ => return (acc, leading, trailing)
  | n + 1, indent, acc, leading, trailing, leadingBlank => do
    let s ← get
    if s.column != indent || s.rest.isEmpty then return (acc, leading, trailing)
    let blank ← testAt 0 isSpace
    let joint :=
      if folded && leading.head? == some '\n' && !leadingBlank && !blank then
        if trailing.isEmpty then [' '] else []
      else leading
    let line ← takeWhile fun c => !isBreak c
    let leading' ← lineBreak
    let (indent, trailing') ← blockBreaks indent
    blockLines folded n indent (acc ++ joint ++ trailing ++ line) leading' trailing' blank

/-- A block scalar. -/
def block (folded : Bool) : Scan Token := do
  skip
  let chomping? : Scan (Option Chomping) := do
    if ← isAt 0 '+' then
      skip
      return some .keep
    if ← isAt 0 '-' then
      skip
      return some .strip
    return none
  let increment? : Scan (Option Nat) := do
    match ← at? 0 with
    | some c =>
      if c.isDigit then
        if c == '0' then failure
        skip
        return some (c.toNat - '0'.toNat)
      else return none
    | none => return none
  let before ← chomping?
  let increment ← increment?
  let after ← if before.isNone && increment.isSome then chomping? else pure none
  let chomping := (before <|> after).getD .clip
  let _ ← takeWhile isSpace
  if ← isAt 0 '#' then
    let _ ← takeWhile fun c => !isBreak c
  if !(← breakOrEnd) then failure
  let _ ← lineBreak
  let base := max (← get).indent 0
  let indent := match increment with
    | some i => base.toNat + i
    | none => 0
  let (indent, trailing) ← blockBreaks indent
  let (acc, leading, trailing) ← blockLines folded (← turns) indent [] [] trailing false
  let tail := match chomping with
    | .strip => []
    | .clip => leading
    | .keep => leading ++ trailing
  return .scalar (String.ofList (acc ++ tail)) (if folded then .folded else .literal)

/-! ### Anchors, tags and directives -/

/-- A name after the mark of an anchor or an alias. -/
def anchorName : Scan String := do
  skip
  let name ← takeWhile isNameChar
  let ends ← match ← at? 0 with
    | none => pure true
    | some c =>
      pure (isSpace c || isBreak c || ['?', ':', ',', ']', '}', '%', '@', '\x60'].contains c)
  if name.isEmpty || !ends then failure
  return String.ofList name

/-- The bytes of escapes by number in a tag. -/
def escapedBytes : Nat → List Char → Option (List UInt8 × List Char)
  | 0, cs => some ([], cs)
  | n + 1, cs =>
    match cs with
    | '%' :: a :: b :: rest => do
      let v ← hexValue? [a, b]
      let (more, rest) ← escapedBytes n rest
      return (UInt8.ofNat v :: more, rest)
    | '%' :: _ => none
    | cs => some ([], cs)

/-- The text of a tag, with its escapes resolved. -/
def unescapeUri : Nat → List Char → Option (List Char)
  | 0, _ => none
  | _ + 1, [] => some []
  | n + 1, '%' :: rest => do
    let (bytes, rest) ← escapedBytes n ('%' :: rest)
    let text ← String.fromUTF8? ⟨bytes.toArray⟩
    return text.toList ++ (← unescapeUri n rest)
  | n + 1, c :: rest => do return c :: (← unescapeUri n rest)

/-- The characters of a class with their escapes resolved. -/
def uri (f : Char → Bool) : Scan (List Char) := do
  let cs ← takeWhile f
  match unescapeUri (cs.length + 1) cs with
  | some cs => return cs
  | none => failure

/-- A tag. -/
def tag : Scan Token := do
  let token ← if ← isAt 1 '<' then do
      skipN 2
      let cs ← uri isUriChar
      if cs.isEmpty || !(← isAt 0 '>') then failure
      skip
      pure (Token.tag "" (String.ofList cs))
    else do
      skip
      let name ← takeWhile isNameChar
      if ← isAt 0 '!' then
        skip
        let suffix ← uri isTagChar
        if suffix.isEmpty then failure
        pure (Token.tag ("!" ++ String.ofList name ++ "!") (String.ofList suffix))
      else
        let more ← uri isTagChar
        let suffix := name ++ more
        pure (if suffix.isEmpty then Token.tag "" "!" else Token.tag "!" (String.ofList suffix))
  let inFlow := (← get).flowLevel > 0
  if !(inFlow && (← isAt 0 ',')) && !(← blankOrEndAt 0) then failure
  return token

/-- Takes digits. -/
def number : Scan Nat := do
  let ds ← takeWhile Char.isDigit
  if ds.isEmpty || ds.length > 9 then failure
  return ds.foldl (fun n c => 10 * n + (c.toNat - '0'.toNat)) 0

/-- A directive. -/
def directive : Scan Token := do
  skip
  let name := String.ofList (← takeWhile isNameChar)
  if !(← blankOrEndAt 0) then failure
  let _ ← takeWhile isSpace
  let token ← match name with
    | "YAML" => do
      let major ← number
      if !(← isAt 0 '.') then failure
      skip
      pure (Token.version major (← number))
    | "TAG" => do
      if !(← isAt 0 '!') then failure
      skip
      let handle ← takeWhile isNameChar
      let closed ← isAt 0 '!'
      if closed then skip
      if !closed && !handle.isEmpty then failure
      if !(← testAt 0 isSpace) then failure
      let _ ← takeWhile isSpace
      let lead ← uri isUriChar
      if !(← blankOrEndAt 0) then failure
      let closing := if closed then "!" else ""
      pure (Token.tagDirective ("!" ++ String.ofList handle ++ closing) (String.ofList lead))
    | _ => failure
  let _ ← takeWhile isSpace
  if ← isAt 0 '#' then
    let _ ← takeWhile fun c => !isBreak c
  if !(← breakOrEnd) then failure
  let _ ← lineBreak
  return token

/-! ### Tokens -/

/-- Skips blanks, breaks and comments. -/
def skipToToken : Scan Unit :=
  loop do
    loop do
      let s ← get
      match s.rest with
      | ' ' :: _ =>
        skip
        return true
      | '\t' :: _ =>
        if s.flowLevel > 0 || !s.keyAllowed then
          skip
          return true
        return false
      | _ => return false
    if ← isAt 0 '#' then
      let _ ← takeWhile fun c => !isBreak c
    if ← testAt 0 isBreak then
      let _ ← lineBreak
      modify fun s => { s with keyAllowed := s.keyAllowed || s.flowLevel == 0 }
      return true
    return false

/-- The end of the text. -/
def finish : Scan Unit := do
  modify fun s =>
    if s.column != 0 then { s with column := 0, line := s.line + 1 } else s
  unrollIndent (-1)
  forgetKey
  allowKey false
  emit .streamEnd

/-- A mark for the start or the end of a document, or a directive. -/
def documentLevel (token : Scan Token) : Scan Unit := do
  unrollIndent (-1)
  forgetKey
  allowKey false
  emit (← token)

/-- The start of a collection in brackets. -/
def openFlow (t : Token) : Scan Unit := do
  rememberKey
  modify fun s =>
    { s with keys := none :: s.keys, flowLevel := s.flowLevel + 1, keyAllowed := true }
  skip
  emit t

/-- The end of a collection in brackets. -/
def closeFlow (t : Token) : Scan Unit := do
  forgetKey
  modify fun s => { s with
    keys := if s.flowLevel > 0 then s.keys.tail else s.keys
    flowLevel := s.flowLevel - 1
    keyAllowed := false }
  skip
  emit t

/-- The mark of an entry or of a key, which may start a block. -/
def marked (start t : Token) (allow : Scanner → Bool) : Scan Unit := do
  let s ← get
  if s.flowLevel == 0 then
    if !s.keyAllowed then failure
    rollIndent s.column none start
  forgetKey
  modify fun s => { s with keyAllowed := allow s }
  skip
  emit t

/-- The mark of a value. -/
def valueMark : Scan Unit := do
  let s ← get
  match s.keys with
  | some k :: outer =>
    emitAt k.number .key
    rollIndent k.column (some k.number) .blockMappingStart
    modify fun s => { s with keys := none :: outer, keyAllowed := false }
  | _ =>
    if s.flowLevel == 0 then
      if !s.keyAllowed then failure
      rollIndent s.column none .blockMappingStart
    modify fun s => { s with keyAllowed := s.flowLevel == 0 }
  skip
  emit .value

/-- Something that may be a key. -/
def keyLike (token : Scan Token) : Scan Unit := do
  rememberKey
  allowKey false
  emit (← token)

/-- A block scalar, which is no key. -/
def blockScalar (folded : Bool) : Scan Unit := do
  forgetKey
  allowKey true
  emit (← block folded)

/-- Characters that no plain scalar starts with. -/
def isIndicator (c : Char) : Bool :=
  ['-', '?', ':', ',', '[', ']', '{', '}', '#', '&', '*', '!', '|', '>', '\'', '"', '%', '@',
    '\x60'].contains c

/-- Takes the next token; the answer is whether there may be more. -/
def nextToken : Scan Bool := do
  skipToToken
  dropStaleKeys
  unrollIndent (← get).column
  let s ← get
  match s.rest with
  | [] =>
    finish
    return false
  | c :: _ =>
    let inFlow := s.flowLevel > 0
    let spaced ← blankOrEndAt 1
    let starts := s.column == 0
    let mark := s.rest.take 3
    if starts && c == '%' then documentLevel directive
    else if starts && mark == ['-', '-', '-'] && (← blankOrEndAt 3) then
      documentLevel do
        skipN 3
        return .documentStart
    else if starts && mark == ['.', '.', '.'] && (← blankOrEndAt 3) then
      documentLevel do
        skipN 3
        return .documentEnd
    else if c == '[' then openFlow .flowSequenceStart
    else if c == '{' then openFlow .flowMappingStart
    else if c == ']' then closeFlow .flowSequenceEnd
    else if c == '}' then closeFlow .flowMappingEnd
    else if c == ',' then
      forgetKey
      allowKey true
      skip
      emit .flowEntry
    else if c == '-' && spaced then marked .blockSequenceStart .blockEntry fun _ => true
    else if c == '?' && (inFlow || spaced) then
      marked .blockMappingStart .key fun s => s.flowLevel == 0
    else if c == ':' && (inFlow || spaced) then valueMark
    else if c == '*' then keyLike (Token.reference <$> anchorName)
    else if c == '&' then keyLike (Token.anchor <$> anchorName)
    else if c == '!' then keyLike tag
    else if c == '|' && !inFlow then blockScalar false
    else if c == '>' && !inFlow then blockScalar true
    else if c == '\'' then keyLike (quoted true)
    else if c == '"' then keyLike (quoted false)
    else if !isIndicator c || (c == '-' && !(← testAt 1 isSpace)) ||
        (!inFlow && (c == '?' || c == ':') && !spaced) then
      keyLike plain
    else failure
    return true

end Scan

/-- The tokens of a text, if it has a row of them. A mark of the byte order may start the text. -/
def scan (text : String) : Option (List Token) :=
  let cs := match text.toList with
    | c :: rest => if c.toNat == 0xfeff then rest else c :: rest
    | [] => []
  if cs.all isAllowed then
    ((Scan.loop Scan.nextToken).run { rest := cs }).map fun (_, s) => s.tokens
  else none

end AssetFlow.Document.Yaml
