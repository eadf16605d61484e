import AssetFlow.Sql.Dialect

/-!
# Quoted text

A quoted text is enclosed in a pair of delimiters, and a closing delimiter inside it is written
twice. Writing is `doubled`; reading is `readQuoted`, which also says how many characters the
quoted text takes.

## Main definitions

- `doubled`: a text with every closing delimiter doubled.
- `readQuoted`: the value of a quoted text whose opening delimiter has been read.
- `Dialect.quoteIdent`: an identifier in the quotes of a dialect.
- `escapeLiteral`: the inside of a string literal.
-/

namespace AssetFlow.Sql

/-- The characters with every delimiter `q` doubled. -/
def doubled (q : Char) : List Char → List Char
  | [] => []
  | c :: rest => if c = q then q :: q :: doubled q rest else c :: doubled q rest

/-- Reads a quoted text up to its closing delimiter `q`, after the opening one. The answer is the
value and the number of characters read, the delimiter included. -/
def readQuoted (q : Char) : List Char → Option (List Char × Nat)
  | [] => none
  | [c] => if c = q then some ([], 1) else none
  | c :: next :: rest =>
    if c = q then
      if next = q then (readQuoted q rest).map fun (value, count) => (q :: value, count + 2)
      else some ([], 1)
    else (readQuoted q (next :: rest)).map fun (value, count) => (c :: value, count + 1)

/-- The inside of a string literal in single quotes whose value is `s`. -/
def escapeLiteral (s : String) : String :=
  String.ofList (doubled '\'' s.toList)

/-- A text between an opening and a closing delimiter. -/
def enclose (opening closing : Char) (s : String) : String :=
  String.ofList (opening :: doubled closing s.toList ++ [closing])

/-- The delimiters in which a dialect writes quoted identifiers. -/
def Dialect.identifierQuotes : Dialect → Char × Char
  | .bigQuery | .databricks | .mySql => ('\x60', '\x60')
  | .msSql => ('[', ']')
  | _ => ('"', '"')

/-- The identifier `ident` in the quotes of the dialect. -/
def Dialect.quoteIdent (d : Dialect) (ident : String) : String :=
  enclose d.identifierQuotes.1 d.identifierQuotes.2 ident

end AssetFlow.Sql
