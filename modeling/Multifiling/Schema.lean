import Multifiling.Database.Dialect

/-!
Schemas: tables with their columns, keys and checks, and the indexes on them.
-/

namespace Multifiling

open Database (Dialect)

/-- What a column holds. -/
inductive ColumnType where
  | identifier
  | text (length : Nat)
  | json
  | boolean
  | timestamp
  deriving DecidableEq, Repr

/-- What stands in a column that an insert leaves out: the time of the insert. -/
inductive ColumnDefault where
  /-- Asked for in the words of the dialect. -/
  | insertTime
  /-- Asked for by the text `now()`, whatever the dialect. -/
  | nowCall
  deriving DecidableEq, Repr

/-- Whether a database can compute a default. It lays down a table without asking, and an insert
that needs the default fails. -/
def ColumnDefault.isKnown (dialect : Dialect) : ColumnDefault → Bool
  | .insertTime => true
  -- SQLite has no function of this name
  | .nowCall => dialect = .postgresql

structure Column where
  name : String
  type : ColumnType
  nullable : Bool := false
  whenOmitted : Option ColumnDefault := none
  deriving DecidableEq, Repr

/-- Whether a column that is left out is to be given the time of the insert. -/
def Column.defaultsToNow (column : Column) : Bool := column.whenOmitted.isSome

/-- What becomes of a row when the row that it refers to is deleted. -/
inductive OnDelete where
  | setNull
  | cascade
  deriving DecidableEq, Repr

/-- A reference from a column to the identifiers of a table. -/
structure ForeignKey where
  column : String
  table : String
  onDelete : OnDelete
  deriving DecidableEq, Repr

/-- Columns that no two rows have in common. -/
structure UniqueKey where
  name : String
  columns : List String
  deriving DecidableEq, Repr

/-- Two columns that differ in every row. -/
structure DistinctCheck where
  name : String
  left : String
  right : String
  deriving DecidableEq, Repr

structure Table where
  name : String
  columns : List Column
  primaryKey : String := "id"
  primaryKeyName : Option String := none
  foreignKeys : List ForeignKey := []
  uniqueKeys : List UniqueKey := []
  checks : List DistinctCheck := []
  deriving DecidableEq, Repr

/-- A restriction of an index to the rows in which a column is true, on some dialects. -/
structure IndexFilter where
  column : String
  dialects : List Dialect
  deriving DecidableEq, Repr

/-- An index on columns of a table; one that is unique lets no two of its rows have them in
common. -/
structure Index where
  name : String
  table : String
  columns : List String
  unique : Bool := false
  filter : Option IndexFilter := none
  deriving DecidableEq, Repr

/-- The column that restricts an index on a dialect. -/
def Index.filterOn (index : Index) (dialect : Dialect) : Option String :=
  (index.filter.filter (·.dialects.contains dialect)).map (·.column)

structure Schema where
  tables : List Table := []
  indexes : List Index := []
  deriving DecidableEq, Repr

namespace Schema

def table? (schema : Schema) (name : String) : Option Table := schema.tables.find? (·.name = name)

/-- Whether a name belongs to a table or an index. -/
def hasName (schema : Schema) (name : String) : Bool :=
  (schema.table? name).isSome || schema.indexes.any (·.name = name)

end Schema

end Multifiling
