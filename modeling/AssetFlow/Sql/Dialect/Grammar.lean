import AssetFlow.Sql.Dialect

/-!
# Grammatical decisions of the dialects

What sets the grammars of the SQL dialects apart. Each decision is one predicate, so that the
grammar asks for a rule and never for a dialect.

## Main definitions

- `Dialect.trailingCommas` and the other predicates, in the order of the grammar.
-/

namespace AssetFlow.Sql

namespace Dialect

/-! ### Lists and names -/

/-- Every comma separated list may end in a comma. -/
def trailingCommas : Dialect → Bool
  | duckDb => true
  | _ => false

/-- A projection may end in a comma. -/
def projectionTrailingCommas : Dialect → Bool
  | duckDb | bigQuery | snowflake | generic => true
  | _ => false

/-- The list of relations may end in a comma. -/
def fromTrailingCommas : Dialect → Bool
  | snowflake => true
  | _ => false

/-- Two dots in a name leave its second part out. -/
def doubleDots : Dialect → Bool
  | snowflake | msSql => true
  | _ => false

/-- A part of a name may be computed by `IDENTIFIER(…)`. -/
def computedNames : Dialect → Bool
  | snowflake => true
  | _ => false

/-- The name of a table may hold hyphens. -/
def hyphenatedNames : Dialect → Bool
  | bigQuery => true
  | _ => false

/-- A quoted part of a name may stand for several parts with dots between them. -/
def dottedQuotes : Dialect → Bool
  | bigQuery => true
  | _ => false

/-! ### Values -/

/-- `TRUE` and `FALSE` are literals. -/
def booleanLiterals : Dialect → Bool
  | msSql => false
  | _ => true

/-- `E'…'` is a value. -/
def escapedLiterals : Dialect → Bool
  | postgres | generic => true
  | _ => false

/-- Neighbouring string literals form one. -/
def concatenatesStrings : Dialect → Bool
  | mySql => true
  | _ => false

/-- String literals with a line break between them form one. -/
def concatenatesLines : Dialect → Bool
  | postgres | redshift => true
  | _ => false

/-- The field `WEEK` may name the first day of the week. -/
def weekStarts : Dialect → Bool
  | bigQuery | generic => true
  | _ => false

/-- Any word is a field of dates. -/
def customDateFields : Dialect → Bool
  | postgres | snowflake | generic => true
  | _ => false

/-- Any string literal is a field of dates. -/
def quotedDateFields : Dialect → Bool
  | postgres | snowflake | redshift | generic => true
  | _ => false

/-- `INTERVAL` needs a unit and takes any expression. -/
def intervalNeedsUnit : Dialect → Bool
  | bigQuery | mySql | databricks | clickHouse => true
  | _ => false

/-- The type `INTERVAL` may name fields and a precision. -/
def intervalOptions : Dialect → Bool
  | postgres | generic => true
  | _ => false

/-- The word `interval` may be an identifier. -/
def intervalIsIdentifier : Dialect → Bool
  | postgres | snowflake => true
  | _ => false

/-- Braces enclose a record of named values. -/
def braceRecords : Dialect → Bool
  | duckDb | clickHouse | snowflake | generic => true
  | _ => false

/-- `MAP` may be followed by braces. -/
def mapLiterals : Dialect → Bool
  | duckDb | generic => true
  | _ => false

/-- `STRUCT(…)` builds a record. -/
def structLiterals : Dialect → Bool
  | bigQuery | databricks | generic => true
  | _ => false

/-! ### Types -/

/-- Integer types may be marked as signed. -/
def signedTypes : Dialect → Bool
  | mySql | generic => true
  | _ => false

/-- Brackets after a type make it an array. -/
def bracketedTypes : Dialect → Bool
  | duckDb | postgres | redshift | generic => true
  | _ => false

/-- `ARRAY` alone is a type. -/
def bareArrays : Dialect → Bool
  | snowflake => true
  | _ => false

/-- The element type of an array stands in parentheses. -/
def parenthesisedArrays : Dialect → Bool
  | clickHouse => true
  | _ => false

/-- `STRUCT(…)` is a type whose fields are named. -/
def fieldTypes : Dialect → Bool
  | duckDb => true
  | _ => false

/-- `STRUCT<…>` is a type. -/
def angleStructs : Dialect → Bool
  | bigQuery | databricks | generic => true
  | _ => false

/-- `UNION(…)` is a type. -/
def unionTypes : Dialect → Bool
  | duckDb | generic => true
  | _ => false

/-- `Nullable(…)`, `Map(…)` and their like are types. -/
def wrappedTypes : Dialect → Bool
  | clickHouse | generic => true
  | _ => false

/-- Types for searching text exist. -/
def textSearchTypes : Dialect → Bool
  | postgres | generic => true
  | _ => false

/-! ### Operands -/

/-- A word followed by an arrow starts an anonymous function. -/
def lambdas : Dialect → Bool
  | duckDb | databricks | clickHouse | snowflake | generic => true
  | _ => false

/-- Words such as `CURRENT_USER` are functions without parentheses. -/
def sessionWords : Dialect → Bool
  | postgres | generic => true
  | _ => false

/-- `EXISTS` is a function unless a query follows it directly. -/
def existsIsFunction : Dialect → Bool
  | databricks => true
  | _ => false

/-- `ARRAY(…)` collects the rows of a query. -/
def arrayQueries : Dialect → Bool
  | bigQuery | snowflake | duckDb | postgres | redshift | msSql | mySql | generic => true
  | _ => false

/-- `TRIM(a, b)` gives the characters to remove. -/
def commaTrim : Dialect → Bool
  | duckDb | snowflake | bigQuery | generic => true
  | _ => false

/-- `EXTRACT` may separate the field by a comma. -/
def commaExtract : Dialect → Bool
  | snowflake | generic => true
  | _ => false

/-- `TRY_CONVERT` is a conversion. -/
def tryConvert : Dialect → Bool
  | msSql | generic => true
  | _ => false

/-- A conversion names its type first. -/
def convertTypeFirst : Dialect → Bool
  | msSql | redshift => true
  | _ => false

/-- `BINARY` before an expression converts it. -/
def binaryCasts : Dialect → Bool
  | mySql => true
  | _ => false

/-- `MATCH … AGAINST` searches text. -/
def matchAgainst : Dialect → Bool
  | mySql | generic => true
  | _ => false

/-- An exclamation mark negates. -/
def bangNegation : Dialect → Bool
  | databricks | generic => true
  | _ => false

/-- Roots, absolute values and factorials have operators. -/
def rootOperators : Dialect → Bool
  | postgres => true
  | _ => false

/-- A qualified wildcard may be an operand. -/
def wildcardOperands : Dialect → Bool
  | postgres => true
  | _ => false

/-- `(+)` after a column marks the side of an outer join. -/
def outerJoinMarks : Dialect → Bool
  | snowflake | generic => true
  | _ => false

/-! ### Functions -/

/-- A function of a single query needs no second parentheses. -/
def queryArguments : Dialect → Bool
  | snowflake => true
  | _ => false

/-- The name of a function argument may be any expression. -/
def expressionArgumentNames : Dialect → Bool
  | msSql | postgres => true
  | _ => false

/-- `name => value` passes a named argument. -/
def arrowArguments : Dialect → Bool
  | msSql => false
  | _ => true

/-- `name = value` passes a named argument. -/
def equalsArguments : Dialect → Bool
  | duckDb | generic => true
  | _ => false

/-- `name := value` passes a named argument. -/
def assignmentArguments : Dialect → Bool
  | duckDb | postgres | generic => true
  | _ => false

/-- `name : value` passes a named argument. -/
def colonArguments : Dialect → Bool
  | msSql | postgres => true
  | _ => false

/-- A call may follow a call. -/
def parametricCalls : Dialect → Bool
  | clickHouse | generic => true
  | _ => false

/-- The treatment of nulls may stand among the arguments. -/
def argumentNullTreatment : Dialect → Bool
  | bigQuery | snowflake | generic => true
  | _ => false

/-- `HAVING MIN` and `HAVING MAX` may follow the arguments. -/
def boundArguments : Dialect → Bool
  | bigQuery | generic => true
  | _ => false

/-- `SEPARATOR` may follow the arguments. -/
def argumentSeparators : Dialect → Bool
  | mySql | generic => true
  | _ => false

/-- Aggregates may be followed by `FILTER (WHERE …)`. -/
def aggregateFilters : Dialect → Bool
  | postgres | duckDb | databricks | redshift | generic => true
  | _ => false

/-! ### Operators -/

/-- `<<` and `>>` shift bits. -/
def shiftOperators : Dialect → Bool
  | postgres | duckDb | redshift | mySql | generic => true
  | _ => false

/-- A number sign is an infix operator. -/
def hashOperators : Dialect → Bool
  | postgres | redshift => true
  | _ => false

/-- Two ampersands ask whether two values meet. -/
def overlapOperators : Dialect → Bool
  | postgres | redshift | generic => true
  | _ => false

/-- Two ampersands are a conjunction. -/
def doubleAmpersandIsAnd : Dialect → Bool
  | mySql => true
  | _ => false

/-- `^@` asks for the start of a text. -/
def startsWithOperators : Dialect → Bool
  | postgres | generic => true
  | _ => false

/-- `OPERATOR(…)` names an operator. -/
def namedOperators : Dialect → Bool
  | postgres | generic => true
  | _ => false

/-- `NOTNULL` is a predicate. -/
def notNullOperators : Dialect → Bool
  | postgres | duckDb => true
  | _ => false

/-- `DIV` divides whole numbers. -/
def divisionWords : Dialect → Bool
  | mySql => true
  | _ => false

/-- A collation may follow any expression. -/
def infixCollation : Dialect → Bool
  | postgres => true
  | _ => false

/-- A colon is no operator. -/
def bareColons : Dialect → Bool
  | postgres | msSql => true
  | _ => false

/-- A colon binds as tightly as a conversion. -/
def tightColons : Dialect → Bool
  | snowflake => true
  | _ => false

/-! ### Projections -/

/-- A select may start with its `FROM` clause. -/
def fromFirst : Dialect → Bool
  | duckDb | clickHouse | generic => true
  | _ => false

/-- A select may have no projection. -/
def emptyProjections : Dialect → Bool
  | postgres | generic => true
  | _ => false

/-- `TOP` stands before `DISTINCT`. -/
def topBeforeDistinct : Dialect → Bool
  | redshift => true
  | _ => false

/-- A comment after `SELECT` may hint at a plan. -/
def optimizerHints : Dialect → Bool
  | mySql | generic => true
  | _ => false

/-- Words that modify a select may follow it in any order. -/
def selectModifiers : Dialect → Bool
  | mySql | generic => true
  | _ => false

/-- `SELECT AS STRUCT` and its relatives exist. -/
def valueTables : Dialect → Bool
  | bigQuery => true
  | _ => false

/-- `EXCLUDE` may follow the whole projection. -/
def selectExclude : Dialect → Bool
  | redshift => true
  | _ => false

/-- A wildcard may be followed by `EXCLUDE`. -/
def wildcardExclude : Dialect → Bool
  | duckDb | snowflake | redshift | generic => true
  | _ => false

/-- A wildcard may be followed by `EXCEPT (…)`. -/
def wildcardExcept : Dialect → Bool
  | bigQuery | clickHouse | databricks | generic => true
  | _ => false

/-- A wildcard may be followed by `REPLACE (…)`. -/
def wildcardReplace : Dialect → Bool
  | bigQuery | clickHouse | duckDb | snowflake | generic => true
  | _ => false

/-- A wildcard may be followed by `RENAME …`. -/
def wildcardRename : Dialect → Bool
  | snowflake | generic => true
  | _ => false

/-- A wildcard may be followed by `ILIKE …`. -/
def wildcardIlike : Dialect → Bool
  | snowflake | generic => true
  | _ => false

/-- A projection item may be any expression followed by a wildcard. -/
def expressionWildcards : Dialect → Bool
  | bigQuery | snowflake | generic => true
  | _ => false

/-- `name = expression` names a projection item. -/
def equalsAlias : Dialect → Bool
  | msSql => true
  | _ => false

/-- `CONNECT_BY_ROOT` may precede a projection item. -/
def rootColumns : Dialect → Bool
  | snowflake => true
  | _ => false

/-! ### Relations -/

/-- `UNNEST(…)` is a relation of its own kind. -/
def unnestRelations : Dialect → Bool
  | bigQuery | postgres | redshift | generic => true
  | _ => false

/-- Parentheses may enclose a single table. -/
def parenthesisedTables : Dialect → Bool
  | snowflake | generic => true
  | _ => false

/-- `VALUES` may stand among the relations without parentheses. -/
def bareValuesRelations : Dialect → Bool
  | snowflake | databricks | generic => true
  | _ => false

/-- Joins without parentheses associate to the left. -/
def leftAssociativeJoins : Dialect → Bool
  | snowflake | postgres => false
  | _ => true

/-- A cross join may have a condition. -/
def crossJoinConstraints : Dialect → Bool
  | databricks | mySql | generic => true
  | _ => false

/-- `PARTITION (…)` selects partitions of a table. -/
def tablePartitions : Dialect → Bool
  | mySql | generic => true
  | _ => false

/-- A table may be read as of an earlier time. -/
def tableVersions : Dialect → Bool
  | bigQuery | msSql | snowflake | databricks => true
  | _ => false

/-- Index hints may follow a table. -/
def indexHints : Dialect → Bool
  | mySql | generic => true
  | _ => false

/-- `MATCH_RECOGNIZE` may follow a table. -/
def rowPatterns : Dialect → Bool
  | snowflake | generic => true
  | _ => false

/-- `SEMANTIC_VIEW(…)` is a relation. -/
def semanticViews : Dialect → Bool
  | snowflake => true
  | _ => false

/-! ### Clauses -/

/-- `PREWHERE` filters before `WHERE`. -/
def prewhere : Dialect → Bool
  | clickHouse | generic => true
  | _ => false

/-- Rows may be connected with their parents. -/
def connectBy : Dialect → Bool
  | snowflake | msSql | redshift | generic => true
  | _ => false

/-- `GROUP BY ROLLUP (…)` and its relatives are part of the grammar. -/
def groupByExpressions : Dialect → Bool
  | duckDb | postgres | snowflake | databricks | bigQuery | clickHouse | generic => true
  | _ => false

/-- `WITH ROLLUP` and its relatives may follow the grouping. -/
def groupByModifiers : Dialect → Bool
  | clickHouse | mySql | generic => true
  | _ => false

/-- A named window may be another one. -/
def windowReferences : Dialect → Bool
  | bigQuery | generic => true
  | _ => false

/-- `ORDER BY ALL` orders by every column. -/
def orderByAll : Dialect → Bool
  | duckDb | clickHouse | generic => true
  | _ => false

/-- `WITH FILL` and `INTERPOLATE` fill gaps of an ordering. -/
def orderFilling : Dialect → Bool
  | clickHouse | generic => true
  | _ => false

/-- `LIMIT a, b` gives an offset and a limit. -/
def limitComma : Dialect → Bool
  | mySql | clickHouse | generic => true
  | _ => false

/-- `LIMIT … BY` limits the rows of each group. -/
def limitBy : Dialect → Bool
  | clickHouse | generic => true
  | _ => false

/-- `SETTINGS` may follow a query. -/
def settings : Dialect → Bool
  | clickHouse | generic => true
  | _ => false

/-- `FORMAT` may follow a query. -/
def formats : Dialect → Bool
  | clickHouse | generic => true
  | _ => false

/-- A row of `VALUES` may be empty. -/
def emptyRows : Dialect → Bool
  | mySql => true
  | _ => false

/-- `AS MATERIALIZED` may precede the body of a common table expression. -/
def materializedCtes : Dialect → Bool
  | postgres => true
  | _ => false

/-- The word `AS` of a common table expression may be left out. -/
def bareCtes : Dialect → Bool
  | databricks => true
  | _ => false

/-! ### Changes of data -/

/-- How urgent an insert is and whether it ignores errors may be said. -/
def insertPriorities : Dialect → Bool
  | mySql | generic => true
  | _ => false

/-- The table of an insert may have an alias. -/
def insertAliases : Dialect → Bool
  | postgres => true
  | _ => false

/-- An insert may write to a function. -/
def insertFunctions : Dialect → Bool
  | clickHouse => true
  | _ => false

/-- The columns of an insert may be an empty list. -/
def emptyColumnLists : Dialect → Bool
  | mySql => true
  | _ => false

/-- An insert may assign values to columns. -/
def insertAssignments : Dialect → Bool
  | mySql | generic => true
  | _ => false

/-- An insert may name the format of the rows that follow it. -/
def insertFormats : Dialect → Bool
  | clickHouse => true
  | _ => false

/-- The rows of an insert may have an alias. -/
def insertedRowAliases : Dialect → Bool
  | mySql | generic => true
  | _ => false

/-- `REPLACE` inserts rows. -/
def replaceStatements : Dialect → Bool
  | mySql | generic => true
  | _ => false

/-- The word `FROM` of a delete may be left out. -/
def bareDeletes : Dialect → Bool
  | bigQuery | generic => true
  | _ => false

/-- A merge may insert a row as it is. -/
def mergedRows : Dialect → Bool
  | bigQuery | generic => true
  | _ => false

/-- The actions of a merge may have filters. -/
def mergeFilters : Dialect → Bool
  | generic => true
  | _ => false

/-! ### Definitions -/

/-- The list of columns of a table may end in a comma. -/
def columnTrailingCommas : Dialect → Bool
  | duckDb | bigQuery => true
  | _ => false

/-- A column may be computed or kept out of the table in several ways. -/
def computedColumns : Dialect → Bool
  | clickHouse | generic => true
  | _ => false

/-- `AUTO_INCREMENT` numbers a column, which may also change with every update. -/
def numberedColumns : Dialect → Bool
  | mySql | generic => true
  | _ => false

/-- `AUTOINCREMENT` numbers a column. -/
def autoincrement : Dialect → Bool
  | snowflake | generic => true
  | _ => false

/-- `IDENTITY(…)` numbers a column. -/
def identityColumns : Dialect → Bool
  | msSql | snowflake | generic => true
  | _ => false

/-- A column may have options in parentheses. -/
def columnOptions : Dialect → Bool
  | bigQuery | generic => true
  | _ => false

/-- `AS (…)` computes a column. -/
def derivedColumns : Dialect → Bool
  | mySql | duckDb | generic => true
  | _ => false

/-- Indexes may be defined among the columns of a table. -/
def indexConstraints : Dialect → Bool
  | mySql | generic => true
  | _ => false

/-- The word `LIKE` of a table definition may stand in parentheses. -/
def parenthesisedLike : Dialect → Bool
  | redshift | snowflake | generic => true
  | _ => false

/-- The keys by which a table is stored may follow its columns. -/
def storageKeys : Dialect → Bool
  | clickHouse | generic => true
  | _ => false

/-- A table may be partitioned by an expression. -/
def partitionedTables : Dialect → Bool
  | bigQuery | postgres | generic => true
  | _ => false

/-- A table may be clustered by expressions and have options. -/
def clusteredTables : Dialect → Bool
  | bigQuery | generic => true
  | _ => false

/-- The properties of a table may be given in any order. -/
def unorderedTableProperties : Dialect → Bool
  | snowflake => true
  | _ => false

/-- The query of a table definition needs no word `AS`. -/
def createFromQuery : Dialect → Bool
  | mySql | generic => true
  | _ => false

/-- A view may have options in parentheses. -/
def viewOptions : Dialect → Bool
  | bigQuery | generic => true
  | _ => false

/-- A view may be written to another table. -/
def viewTargets : Dialect → Bool
  | clickHouse | generic => true
  | _ => false

/-- A view may have a comment. -/
def viewComments : Dialect → Bool
  | snowflake | generic => true
  | _ => false

/-- The columns of a view have types. -/
def typedViewColumns : Dialect → Bool
  | clickHouse => true
  | _ => false

/-- A view need not be bound to the schema of its tables. -/
def unboundViews : Dialect → Bool
  | redshift | generic => true
  | _ => false

/-- Macros may be defined. -/
def macros : Dialect → Bool
  | duckDb | generic => true
  | _ => false

/-- A function is defined like a macro. -/
def macroFunctions : Dialect → Bool
  | duckDb => true
  | _ => false

/-- Functions may be defined in other ways. -/
def functionDefinitions : Dialect → Bool
  | postgres | bigQuery | msSql | generic => true
  | _ => false

/-- Something to be dropped may be marked as temporary. -/
def droppedTemporaries : Dialect → Bool
  | mySql | duckDb | generic => true
  | _ => false

/-- Objects may be marked as persistent. -/
def persistentObjects : Dialect → Bool
  | duckDb => true
  | _ => false

/-- A column may be added unless it exists. -/
def conditionalColumns : Dialect → Bool
  | postgres | bigQuery | duckDb | generic => true
  | _ => false

/-- The place of a new column may be said. -/
def columnPositions : Dialect → Bool
  | mySql | generic => true
  | _ => false

/-- Constraints may be renamed. -/
def constraintRenaming : Dialect → Bool
  | postgres => true
  | _ => false

/-- Several columns may be dropped at once. -/
def droppedColumnLists : Dialect → Bool
  | msSql | redshift | snowflake | generic => true
  | _ => false

/-- The conversion to a new type of a column may be given. -/
def typeConversions : Dialect → Bool
  | postgres | redshift | generic => true
  | _ => false

/-- What becomes of rows and keys after a truncation may be said. -/
def truncationOptions : Dialect → Bool
  | postgres | generic => true
  | _ => false

/-! ### Other statements -/

/-- `EXPLAIN` may be followed by options in parentheses. -/
def explainOptions : Dialect → Bool
  | duckDb | postgres | generic => true
  | _ => false

/-- The word `TABLE` may follow `DESCRIBE`. -/
def describedTables : Dialect → Bool
  | snowflake | clickHouse | generic => true
  | _ => false

/-- Databases are attached as files with options. -/
def attachedFiles : Dialect → Bool
  | duckDb => true
  | _ => false

/-- Databases may be detached and extensions installed. -/
def extensions : Dialect → Bool
  | duckDb | generic => true
  | _ => false

/-- Several settings may be assigned at once. -/
def assignmentLists : Dialect → Bool
  | mySql | generic => true
  | _ => false

/-- The names of settings may stand in parentheses. -/
def parenthesisedSettings : Dialect → Bool
  | bigQuery | snowflake | databricks | generic => true
  | _ => false

/-- The character set of names may be set. -/
def namesSetting : Dialect → Bool
  | mySql | postgres | generic => true
  | _ => false

/-- A setting needs no equals sign. -/
def bareSettings : Dialect → Bool
  | msSql => true
  | _ => false

/-- A start of a transaction may be qualified. -/
def transactionModifiers : Dialect → Bool
  | msSql | generic => true
  | _ => false

/-- A block of statements may stand between `BEGIN` and `END`. -/
def statementBlocks : Dialect → Bool
  | bigQuery | snowflake => true
  | _ => false

/-- What `SHOW` lists may be filtered before its place is named. -/
def showFiltersFirst : Dialect → Bool
  | snowflake => true
  | _ => false

/-- Variables and the state of the server may be shown. -/
def shownVariables : Dialect → Bool
  | mySql | generic => true
  | _ => false

/-- Notifications may be sent and awaited. -/
def notifications : Dialect → Bool
  | postgres | generic => true
  | _ => false

/-- Comments may be set on objects. -/
def objectComments : Dialect → Bool
  | duckDb | postgres | snowflake | generic => true
  | _ => false

/-- Tables may be optimized. -/
def optimizedTables : Dialect → Bool
  | clickHouse | generic => true
  | _ => false

/-- A text may be executed as a statement. -/
def immediateExecution : Dialect → Bool
  | bigQuery | snowflake | generic => true
  | _ => false

/-- Caches of the server may be flushed. -/
def flushes : Dialect → Bool
  | mySql | generic => true
  | _ => false

/-- Changes of data in the background may be stopped. -/
def mutations : Dialect → Bool
  | clickHouse | generic => true
  | _ => false

/-- Tables may be locked. -/
def tableLocks : Dialect → Bool
  | mySql => true
  | _ => false

/-- Files may be copied into tables and listed. -/
def stagedCopies : Dialect → Bool
  | snowflake => true
  | _ => false

end Dialect

end AssetFlow.Sql
