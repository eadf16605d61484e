import AssetFlow.Text.Case
import AssetFlow.Text.Letter

/-!
# SQL dialects

The ten dialects in which asset SQL may be written, how they are named, which asset types they
belong to, and the lexical decisions that set them apart. Each decision is one predicate, so that
the reader of tokens asks for a rule and never for a dialect.

## Main definitions

- `Dialect`, `Dialect.name`, `Dialect.ofAssetType?`
- `Dialect.startsIdentifier`, `Dialect.continuesIdentifier`: the letters of plain identifiers.
-/

namespace AssetFlow.Sql

/-- A SQL dialect. -/
inductive Dialect
  | bigQuery | snowflake | duckDb | postgres | redshift
  | msSql | databricks | clickHouse | mySql | generic
  deriving DecidableEq, Repr, Inhabited

namespace Dialect

/-- The display name. -/
def name : Dialect → String
  | bigQuery => "bigquery"
  | snowflake => "snowflake"
  | duckDb => "duckdb"
  | postgres => "postgres"
  | redshift => "redshift"
  | msSql => "tsql"
  | databricks => "databricks"
  | clickHouse => "clickhouse"
  | mySql => "mysql"
  | generic => "generic"

/-- The name under which a dialect is stored in configuration data. -/
def key : Dialect → String
  | msSql => "mssql"
  | d => d.name

/-- Every dialect. -/
def all : List Dialect :=
  [bigQuery, snowflake, duckDb, postgres, redshift, msSql, databricks, clickHouse, mySql, generic]

/-- The dialect stored under a key. -/
def ofKey? (key : String) : Option Dialect :=
  all.find? (·.key == key)

/-- The dialect of an asset type such as `bq.sql`; other asset types hold no SQL. -/
def ofAssetType? : String → Option Dialect
  | "bq.sql" => some bigQuery
  | "sf.sql" => some snowflake
  | "duckdb.sql" | "motherduck.sql" => some duckDb
  | "pg.sql" => some postgres
  | "rs.sql" => some redshift
  | "ms.sql" | "synapse.sql" => some msSql
  | "databricks.sql" => some databricks
  | "clickhouse.sql" => some clickHouse
  | "mysql.sql" => some mySql
  | "athena.sql" => some generic
  | _ => none

/-! ### Letters of identifiers -/

/-- A letter `a` to `z` in either case, or an underscore. -/
def isAsciiWordStart (c : Char) : Bool :=
  c.isAlpha || c == '_'

/-- A plain identifier may start with `c`. -/
def startsIdentifier (d : Dialect) (c : Char) : Bool :=
  match d with
  | bigQuery => isAsciiWordStart c || c == '@'
  | snowflake | databricks | clickHouse => isAsciiWordStart c
  | duckDb => Text.isAlphabetic c || c == '_'
  | postgres => Text.isAlphabetic c || c == '_' || c.toNat ≥ 128
  | redshift => Text.isAlphabetic c || c == '_' || c == '#' || c.toNat ≥ 128
  | msSql | generic => Text.isAlphabetic c || c == '_' || c == '#' || c == '@'
  | mySql =>
    Text.isAlphabetic c || c == '_' || c == '$' || c == '@' || c.toNat ≥ 128

/-- A plain identifier may go on with `c`. -/
def continuesIdentifier (d : Dialect) (c : Char) : Bool :=
  match d with
  | bigQuery => isAsciiWordStart c || c.isDigit
  | snowflake => isAsciiWordStart c || c.isDigit || c == '$'
  | databricks | clickHouse => isAsciiWordStart c || c.isDigit
  | duckDb => Text.isAlphabetic c || c.isDigit || c == '$' || c == '_'
  | postgres => Text.isAlphabetic c || c.isDigit || c == '$' || c == '_' || c.toNat ≥ 128
  | redshift =>
    Text.isAlphabetic c || c.isDigit || c == '$' || c == '_' || c == '#' || c.toNat ≥ 128
  | msSql | generic =>
    Text.isAlphabetic c || c.isDigit || c == '@' || c == '$' || c == '#' || c == '_'
  | mySql => d.startsIdentifier c || c.isDigit

/-- A quoted identifier may open with `c`. -/
def opensQuotedIdentifier (d : Dialect) (c : Char) : Bool :=
  match d with
  | bigQuery | databricks | mySql => c == '\x60'
  | postgres | redshift => c == '"'
  | msSql => c == '"' || c == '['
  | snowflake | duckDb | clickHouse | generic => c == '"' || c == '\x60'

/-! ### Lexical decisions -/

/-- A backslash escapes the next character of a string literal. -/
def backslashEscapes : Dialect → Bool
  | bigQuery | mySql | snowflake | clickHouse | redshift => true
  | _ => false

/-- An escaped wildcard character of a string literal keeps its backslash. -/
def keepsWildcardEscapes : Dialect → Bool
  | mySql => true
  | _ => false

/-- String literals may be enclosed in three quotes. -/
def tripleQuotedStrings : Dialect → Bool
  | bigQuery => true
  | _ => false

/-- `B'…'` is a literal of bytes or bits. -/
def byteStrings : Dialect → Bool
  | bigQuery | postgres | mySql | generic => true
  | _ => false

/-- `R'…'` is a literal without escapes. -/
def rawStrings : Dialect → Bool
  | bigQuery | generic => true
  | _ => false

/-- `E'…'` is a literal with backslash escapes. -/
def escapeStrings : Dialect → Bool
  | postgres | redshift | generic => true
  | _ => false

/-- `U&'…'` is a literal with code point escapes. -/
def unicodeStrings : Dialect → Bool
  | postgres | generic => true
  | _ => false

/-- `Q'[…]'` is a literal between delimiters of its own. -/
def delimitedStrings : Dialect → Bool
  | generic => true
  | _ => false

/-- Identifiers may start with digits. -/
def numericPrefixes : Dialect → Bool
  | mySql => true
  | _ => false

/-- Digits of a number may be grouped by underscores. -/
def groupedDigits : Dialect → Bool
  | clickHouse | postgres => true
  | _ => false

/-- Block comments nest. -/
def nestedComments : Dialect → Bool
  | generic | postgres | msSql | databricks | clickHouse => true
  | _ => false

/-- Two dashes start a comment only before a blank. -/
def dashCommentsNeedBlank : Dialect → Bool
  | mySql => true
  | _ => false

/-- A carriage return ends a comment of one line. -/
def returnEndsComments : Dialect → Bool
  | postgres => true
  | _ => false

/-- A comment that starts with an exclamation mark is read as part of the statement. -/
def commentHints : Dialect → Bool
  | mySql => true
  | _ => false

/-- A number sign starts a comment. -/
def hashComments : Dialect → Bool
  | snowflake | bigQuery | mySql => true
  | _ => false

/-- Two slashes start a comment. -/
def slashComments : Dialect → Bool
  | snowflake => true
  | _ => false

/-- Two slashes are the operator of integer division. -/
def integerDivision : Dialect → Bool
  | duckDb | generic => true
  | _ => false

/-- Operators on geometric values exist, and a question mark is an operator. -/
def geometricOperators : Dialect → Bool
  | postgres | redshift => true
  | _ => false

/-- Operators of any length may be made up of `c`. -/
def continuesOperator (d : Dialect) (c : Char) : Bool :=
  d == postgres && "+-*/<>=~!@#%^&|\x60?".contains c

/-- A query may go on with pipe operators. -/
def pipeOperators : Dialect → Bool
  | bigQuery | generic => true
  | _ => false

/-- Brackets after a relation or an operand read a path into a document. -/
def bracketPaths : Dialect → Bool
  | redshift => true
  | _ => false

end Dialect

end AssetFlow.Sql
