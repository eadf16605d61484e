import AssetFlow.Text.Case

/-!
# Known tables

The columns of the tables that lineage may rely on. A table is found under its exact name first,
and else under a name that differs only in the case of ASCII letters.

## Main definitions

- `Schema`: the known tables, each name once.
- `Schema.insert`, `Schema.overlay`, `Schema.find?`
-/

namespace AssetFlow.Sql

/-- A column of a known table. -/
structure SchemaColumn where
  name : String
  type : String
  deriving DecidableEq, Repr, Inhabited

/-- A known table. -/
structure SchemaTable where
  name : String
  columns : List SchemaColumn
  deriving DecidableEq, Repr, Inhabited

/-- The known tables. -/
structure Schema where
  tables : List SchemaTable := []
  deriving DecidableEq, Repr, Inhabited

namespace Schema

/-- Puts a table under its name, in place of a table that had it. -/
def put (s : Schema) (t : SchemaTable) : Schema :=
  if s.tables.any (·.name == t.name) then
    ⟨s.tables.map fun old => if old.name == t.name then t else old⟩
  else ⟨s.tables ++ [t]⟩

/-- Registers a table. Columns without a name are dropped, and a table without columns is not
registered. -/
def insert (s : Schema) (table : String) (columns : List SchemaColumn) : Schema :=
  let named := columns.filter (!·.name.isEmpty)
  if named.isEmpty then s else s.put ⟨table, named⟩

/-- The table that `name` refers to. -/
def find? (s : Schema) (name : String) : Option SchemaTable :=
  match s.tables.find? (·.name == name) with
  | some t => some t
  | none => s.tables.find? fun t => Text.equalsIgnoringAsciiCase t.name name

/-- Whether `name` refers to a table. -/
def contains (s : Schema) (name : String) : Bool :=
  (s.find? name).isSome

/-- The tables of `s`, with those of `other` added or put in their place. -/
def overlay (s other : Schema) : Schema :=
  other.tables.foldl put s

/-- The number of tables. -/
def size (s : Schema) : Nat :=
  s.tables.length

/-- The names of the tables in ascending order. -/
def names (s : Schema) : List String :=
  (s.tables.map (·.name)).mergeSort fun a b => decide (a ≤ b)

end Schema

end AssetFlow.Sql
