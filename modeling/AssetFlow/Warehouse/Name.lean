import AssetFlow.Sql.Quoted

/-!
# Names of relations

The name of an asset is also the name of its relation, where a dot separates a schema from what is
in it.

## Main definitions

- `cutAtLastDot?`: what comes before and after the last dot.
- `quoteName`, `quoteQualified`: names as they are written in statements.
-/

namespace AssetFlow.Warehouse

/-- What comes before and after the last dot of a name. -/
def cutAtLastDot? (name : String) : Option (String × String) :=
  let parts := name.splitOn "."
  if parts.length ≤ 1 then none
  else some (".".intercalate parts.dropLast, parts.getLastD "")

/-- The schema of a qualified name. -/
def schemaOf? (name : String) : Option String :=
  (cutAtLastDot? name).map (·.1)

/-- A name of one part in quotes. -/
def quoteName (name : String) : String :=
  Sql.Dialect.duckDb.quoteIdent name

/-- A qualified name with each of its parts in quotes. -/
def quoteQualified (name : String) : String :=
  ".".intercalate ((name.splitOn ".").map quoteName)

end AssetFlow.Warehouse
