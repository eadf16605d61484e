import AssetFlow.Sql.Render
import AssetFlow.Sql.Dialect.Grammar

/-!
# Parsers over tokens

A parser reads tokens from a place in a fixed row and answers a value and the next place, or
where and why it stopped. Backtracking needs no bookkeeping: a parser that failed has moved
nothing.

## Main definitions

- `SyntaxError`: the three ways to fail.
- `Parser`: a parser of a value.
- `attempt`: a parser whose failure is no failure.
- `repeated`, `grow`: loops.
-/

namespace AssetFlow.Sql

/-- Why a text is not in the language. -/
inductive SyntaxError
  /-- The token that starts here does not fit. -/
  | unexpected (at_ : Position)
  /-- The text ends too early, or the fault has no place. -/
  | unplaced
  /-- The text nests too deeply. -/
  | tooDeep
  deriving DecidableEq, Repr, Inhabited

/-- What a parser reads. -/
structure Source where
  dialect : Dialect
  tokens : Array LocatedToken
  /-- Whether a clause that connects rows with their parents is being read. -/
  connecting : Bool := false

/-- A parser: it reads from a place in the tokens. -/
abbrev Parser := ReaderT Source (StateT Nat (Except SyntaxError))

namespace Parser

/-- The token that stands for the end. -/
def finishToken : LocatedToken := ⟨.finish, ⟨0, 0⟩, ⟨0, 0⟩, {}⟩

/-- A decision of the dialect. -/
def rule (f : Dialect → Bool) : Parser Bool := do
  return f (← read).dialect

/-- The token `n` places ahead. -/
def peekNth (n : Nat) : Parser LocatedToken := do
  return ((← read).tokens[(← get) + n]?).getD finishToken

/-- The next token. -/
def peek : Parser Token := do
  return (← peekNth 0).token

/-- The keyword that the token `n` places ahead spells, or nothing. -/
def keywordAt (n : Nat) : Parser String := do
  return (← peekNth n).token.keyword

/-- Skips one token. -/
def skip : Parser Unit :=
  modify (· + 1)

/-- Skips `n` tokens. -/
def skipMany (n : Nat) : Parser Unit :=
  modify (· + n)

/-- Goes back by one token. -/
def unskip : Parser Unit :=
  modify (· - 1)

/-- Takes the next token. -/
def next : Parser LocatedToken := do
  let t ← peekNth 0
  skip
  return t

/-- Fails at a token. -/
def failAt (t : LocatedToken) : Parser α :=
  throw (if t.token == .finish then .unplaced else .unexpected t.start)

/-- Fails at the next token. -/
def failHere : Parser α := do
  failAt (← peekNth 0)

/-- Fails at the token that was taken last. -/
def failBefore : Parser α := do
  failAt (((← read).tokens[(← get) - 1]?).getD finishToken)

/-- Fails without a place. -/
def failUnplaced : Parser α :=
  throw .unplaced

/-- Takes the keyword `k` if it comes next. -/
def keyword (k : String) : Parser Bool := do
  if (← keywordAt 0) == k then
    skip
    return true
  return false

/-- Takes the keywords `ks` if they come next, all or none. -/
def keywords (ks : List String) : Parser Bool := do
  let place ← get
  for k in ks do
    if !(← keyword k) then
      set place
      return false
  return true

/-- Takes one of the keywords `ks` if one comes next. -/
def oneOf (ks : List String) : Parser (Option String) := do
  let k ← keywordAt 0
  if k != "" && ks.contains k then
    skip
    return some k
  return none

/-- Takes the keyword `k` or fails. -/
def expectKeyword (k : String) : Parser Unit := do
  if !(← keyword k) then failHere

/-- Takes the keywords `ks` one by one or fails. -/
def expectKeywords (ks : List String) : Parser Unit :=
  ks.forM expectKeyword

/-- Takes one of the keywords `ks` or fails. -/
def expectOneOf (ks : List String) : Parser String := do
  match ← oneOf ks with
  | some k => return k
  | none => failHere

/-- The text `text` if the keywords `ks` come next, which are taken, else nothing. -/
def flag (ks : List String) (text : String) : Parser String := do
  return if ← keywords ks then text else ""

/-- What `p` reads after the keywords `ks` if they come next. -/
def after (ks : List String) (p : Parser α) : Parser (Option α) := do
  if ← keywords ks then return some (← p) else return none

/-- Takes the keywords `ks` if they come next; nothing depends on them. -/
def allow (ks : List String) : Parser Unit := do
  let _ ← keywords ks

/-- Takes one of the keywords `ks` if one comes next; nothing depends on it. -/
def allowOne (ks : List String) : Parser Unit := do
  let _ ← oneOf ks

/-- What the first parser reads whose keywords come next, which are taken. -/
def choose : List (List String × Parser α) → Parser (Option α)
  | [] => return none
  | (ks, p) :: rest => do
    if ← keywords ks then return some (← p) else choose rest

/-- Whether the symbol `s` comes next. -/
def atSymbol (s : String) : Parser Bool := do
  return (← peek) == .symbol s

/-- Whether the symbols `ss` come next. -/
def atSymbols (ss : List String) : Parser Bool := do
  let place ← get
  let tokens := (← read).tokens
  return (List.range ss.length).all fun i =>
    ((tokens[place + i]?).map (·.token)) == (ss[i]?).map Token.symbol

/-- Takes the symbols `ss` if they come next, all or none. -/
def symbols (ss : List String) : Parser Bool := do
  if ← atSymbols ss then
    skipMany ss.length
    return true
  return false

/-- Takes the symbol `s` if it comes next. -/
def symbol (s : String) : Parser Bool := do
  if ← atSymbol s then
    skip
    return true
  return false

/-- Takes the symbol `s` or fails. -/
def expectSymbol (s : String) : Parser Unit := do
  if !(← symbol s) then failHere

/-- What `p` reads, or nothing, and then nothing is taken. Only a text that nests too deeply still
fails. -/
def attempt (p : Parser α) : Parser (Option α) := fun source place =>
  match p source place with
  | .ok (a, place') => .ok (some a, place')
  | .error .tooDeep => .error .tooDeep
  | .error _ => .ok (none, place)

/-- What `p` reads, or its failure, and then nothing is taken. -/
def outcome (p : Parser α) : Parser (Except SyntaxError α) := fun source place =>
  match p source place with
  | .ok (a, place') => .ok (.ok a, place')
  | .error e => .ok (.error e, place)

/-- The number of tokens left, and one more: a bound on the turns of a loop that takes a token in
each. -/
def turns : Parser Nat := do
  return (← read).tokens.size - (← get) + 1

/-- Repeats `step` until it answers nothing, at most `n` times. -/
def repeatUpTo (step : Parser (Option α)) : Nat → Parser (List α)
  | 0 => return []
  | n + 1 => do
    match ← step with
    | none => return []
    | some a => return a :: (← repeatUpTo step n)

/-- Repeats `step` until it answers nothing. -/
def repeated (step : Parser (Option α)) : Parser (List α) := do
  repeatUpTo step (← turns)

/-- Applies `step` to a growing value until it answers nothing, at most `n` times. -/
def growUpTo (step : α → Parser (Option α)) : Nat → α → Parser α
  | 0, a => return a
  | n + 1, a => do
    match ← step a with
    | none => return a
    | some b => growUpTo step n b

/-- Applies `step` to a growing value until it answers nothing. -/
def grow (step : α → Parser (Option α)) (a : α) : Parser α := do
  growUpTo step (← turns) a

/-- What `p` answers if `allowed` holds; otherwise `p` is not run and the answer is no. -/
def onlyIf (allowed : Bool) (p : Parser Bool) : Parser Bool :=
  if allowed then p else return false

/-- Whether a query starts here. -/
def atQuery : Parser Bool := do
  return ["SELECT", "WITH"].contains (← keywordAt 0)

end Parser

end AssetFlow.Sql
