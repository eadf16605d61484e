import AssetFlow.Sql.Dialect

/-!
# SQL tokens

The words, literals and symbols that SQL text is made of, and where they stand in it.

## Main definitions

- `Token`: one lexical unit; blanks and comments are none.
- `Position`: a line and a column, both counted from one.
- `Gap`: what separates a token from the one before it.
- `LocatedToken`: a token with its extent.
-/

namespace AssetFlow.Sql

/-- A line and a column of a text, both counted from one. -/
structure Position where
  line : Nat
  column : Nat
  deriving DecidableEq, Repr, Inhabited

namespace Position

/-- The position of the first character. -/
def start : Position := ⟨1, 1⟩

/-- The position after the character `c`. -/
def next (p : Position) (c : Char) : Position :=
  if c = '\n' then ⟨p.line + 1, 1⟩ else ⟨p.line, p.column + 1⟩

/-- The position after the characters `cs`. -/
def after (p : Position) (cs : List Char) : Position :=
  cs.foldl next p

end Position

/-- How a string literal is written. -/
inductive StringStyle
  | single | double | national | hex | escaped | unicode
  | byteSingle | byteDouble | rawSingle | rawDouble
  | tripleSingle | tripleDouble
  | byteTripleSingle | byteTripleDouble | rawTripleSingle | rawTripleDouble
  | dollar (tag : String)
  | delimited (opening closing : Char) | nationalDelimited (opening closing : Char)
  deriving DecidableEq, Repr, Inhabited

/-- A lexical unit of SQL. -/
inductive Token
  /-- A plain or quoted word. `keyword` is a plain word with its ASCII letters in upper case, and
  empty for a quoted one. -/
  | word (value : String) (quote : Option Char) (keyword : String)
  /-- An unsigned number in its own spelling, and whether it is marked as long. -/
  | number (text : String) (long : Bool)
  | string (style : StringStyle) (value : String)
  | placeholder (text : String)
  /-- A punctuation mark or operator of the language in its canonical spelling. -/
  | symbol (text : String)
  /-- An operator made up of operator characters. -/
  | customOperator (text : String)
  /-- A character that starts no other token. -/
  | stray (c : Char)
  /-- The end of the text. -/
  | finish
  deriving DecidableEq, Repr, Inhabited

namespace Token

/-- The keyword spelled by a plain word; empty for every other token. -/
def keyword : Token → String
  | word _ _ k => k
  | _ => ""

/-- A plain word with this spelling. -/
def plainWord (value : String) : Token :=
  word value none value.toUpper

/-- Whether the token is a word, plain or quoted. -/
def isWord : Token → Bool
  | word .. => true
  | _ => false

end Token

/-- What separates a token from the token before it. -/
structure Gap where
  /-- A blank or a comment. -/
  spaced : Bool := false
  /-- A line break outside comments. -/
  broken : Bool := false
  /-- The first comment, with its mark. -/
  comment : Option (String × String) := none
  deriving DecidableEq, Repr, Inhabited

/-- A token, where it starts and where it stops, and what precedes it. -/
structure LocatedToken where
  token : Token
  start : Position
  stop : Position
  gap : Gap := {}
  deriving Repr, Inhabited

/-- Whether a blank or comment precedes the token. -/
def LocatedToken.spaced (t : LocatedToken) : Bool :=
  t.gap.spaced

end AssetFlow.Sql
