import AssetFlow.Sql.Dialect.Grammar

/-!
# Strength of operators

How tightly the operators of an expression bind. Operators are sorted into classes; a dialect
gives each class a number, and operators of higher numbers bind more tightly.

## Main definitions

- `Strength`, `Dialect.strength`: the classes and their numbers.
- `Dialect.symbolStrength?`: the class of an operator that is a symbol.
- `Dialect.infixSpelling?`: the canonical spelling of an infix symbol, if the dialect has it.
- `infixWords`, `negatableWords`: the classes of operators that are words.
-/

namespace AssetFlow.Sql

/-- Classes of operators that bind equally. -/
inductive Strength
  | or | and | not | is | like | equal | between | other | pipe | colon | caret | ampersand | xor
  | plus | times | timeZone | collate | bracket | convert | period
  deriving DecidableEq, Repr

/-- How tightly the operators of a class bind. -/
def Dialect.strength (d : Dialect) (s : Strength) : Nat :=
  if d == .postgres then
    match s with
    | .or => 10 | .and => 20 | .not => 30 | .is => 40 | .like => 60 | .equal => 50
    | .between => 60 | .other => 70 | .pipe => 70 | .colon => 70 | .caret => 100
    | .ampersand => 70 | .xor => 75 | .plus => 80 | .times => 90 | .timeZone => 110
    | .collate => 120 | .bracket => 130 | .convert => 140 | .period => 200
  else
    match s with
    | .or => 5 | .and => 10 | .not => 15 | .is => 17 | .like => 19 | .equal => 20
    | .between => 20 | .other => 16 | .pipe => 21 | .colon => 21 | .caret => 22
    | .ampersand => 23 | .xor => 24 | .plus => 30 | .times => 40 | .timeZone => 41
    | .collate => 42 | .bracket => 50 | .convert => 50 | .period => 100

/-- Symbols that compare. -/
def comparisonSymbols : List String :=
  ["=", "==", ":=", "<>", "<", "<=", ">", ">=", "<=>", "~", "~*", "!~", "!~*", "~~", "~~*", "!~~",
    "!~~*"]

/-- Symbols that relate geometric values. -/
def geometricRelations : List String :=
  ["##", "&<", "&>", "?-", "?-|", "&<|", "|&>", "<->", "<^", ">^", "?#", "?||", "~=", "@", "<<|",
    "|>>"]

/-- Symbols that look into documents and arrays. -/
def documentSymbols : List String :=
  ["->", "->>", "#>", "#>>", "@>", "<@", "#-", "@?", "@@", "?", "?&", "?|"]

/-- The symbols of each class of operators. -/
def symbolClasses : List (Strength × List String) :=
  [(.equal, comparisonSymbols), (.pipe, ["|", "&&"]), (.pipe, geometricRelations),
    (.caret, ["^", "#", "<<", ">>"]), (.ampersand, ["&"]), (.plus, ["+", "-"]),
    (.times, ["*", "/", "//", "%", "||"]), (.convert, ["::", "!", "^@"]), (.bracket, ["["]),
    (.other, documentSymbols)]

/-- Symbols that bind like other operators where roots have operators. -/
def looseSymbols : List String :=
  ["!", "&&", "^@", "||", "#", "<<", ">>"]

/-- The class of the operator that a symbol is, if it binds like one. -/
def Dialect.symbolStrength? (d : Dialect) (s : String) : Option Strength :=
  if d.rootOperators && looseSymbols.contains s then some .other
  else (symbolClasses.find? (·.2.contains s)).map (·.1)

/-- The canonical spelling of an infix symbol, if the dialect has it. -/
def Dialect.infixSpelling? (d : Dialect) (s : String) : Option String :=
  let given (allowed : Bool) : Option String := if allowed then some s else none
  match s with
  | "==" => some "="
  | "//" => given d.integerDivision
  | "<<" | ">>" => given d.shiftOperators
  | "#" => given d.hashOperators
  | "&&" => if d.doubleAmpersandIsAnd then some "AND" else given d.overlapOperators
  | "^@" => given d.startsWithOperators
  | "::" | "!" | "[" => none
  | s => given ((d.geometricOperators || !geometricRelations.contains s) &&
      symbolClasses.any (·.2.contains s))

/-- Operators that may be followed by `ANY`, `ALL` or `SOME`. -/
def quantifiableOperators : List String :=
  [">", "<", ">=", "<=", "=", "<>", "~", "~*", "!~", "!~*", "~~", "~~*", "!~~", "!~~*"]

/-- Words that make a predicate after `NOT`. -/
def negatableWords : List (String × Strength) :=
  [("IN", .between), ("BETWEEN", .between), ("LIKE", .like), ("ILIKE", .like), ("RLIKE", .like),
    ("REGEXP", .like), ("MATCH", .like), ("SIMILAR", .like), ("MEMBER", .like), ("NULL", .is)]

/-- Words that are infix operators, with their classes. -/
def infixWords : List (String × Strength) :=
  [("OR", .or), ("AND", .and), ("XOR", .xor), ("IS", .is), ("IN", .between),
    ("BETWEEN", .between), ("OVERLAPS", .between), ("LIKE", .like), ("ILIKE", .like),
    ("RLIKE", .like), ("REGEXP", .like), ("MATCH", .like), ("SIMILAR", .like), ("MEMBER", .like),
    ("OPERATOR", .between), ("DIV", .times)]

/-- The class and the spelling of a sign before an operand. -/
def Dialect.unarySign? (d : Dialect) (s : String) : Option (Strength × String) :=
  if s == "-" || s == "+" then some (.times, s)
  else if s == "~" then some (.plus, s)
  else if s == "!" && d.bangNegation then some (.not, s)
  else if ["!!", "|/", "||/", "@"].contains s && d.rootOperators then some (.plus, s)
  else if ["#", "@-@", "@@", "?-", "?|"].contains s && d.geometricOperators then
    some (.plus, s ++ " ")
  else none

end AssetFlow.Sql
