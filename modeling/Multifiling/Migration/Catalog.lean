import Multifiling.Migration

/-!
Databases as migrations see them: the schema, and the rows of the version table. A statement that
is refused changes nothing, and those before it stay.
-/

namespace Multifiling.Migration

/-- The schema of a database, and the revisions in its version table. -/
structure Catalog where
  schema : Schema := {}
  versions : List String := []
  deriving DecidableEq, Repr

namespace Catalog

def stage (c : Catalog) : Stage := if c.versions.contains revision then .head else .base

def hasVersionTable (c : Catalog) : Bool := (c.schema.table? versionTable.name).isSome

/-- Adds a table, unless its name is taken. -/
def createTable (c : Catalog) (table : Table) : Option Catalog :=
  if c.schema.hasName table.name then none
  else some { c with schema.tables := c.schema.tables ++ [table] }

/-- Adds an index to a table that is there, unless its name is taken. -/
def createIndex (c : Catalog) (index : Index) : Option Catalog :=
  if c.schema.hasName index.name || (c.schema.table? index.table).isNone then none
  else some { c with schema.indexes := c.schema.indexes ++ [index] }

/-- Removes an index that is there. -/
def dropIndex (c : Catalog) (name : String) : Option Catalog :=
  if c.schema.indexes.any (·.name = name) then
    some { c with schema.indexes := c.schema.indexes.filter (·.name ≠ name) }
  else none

/-- Removes a table that is there, with its indexes. -/
def dropTable (c : Catalog) (name : String) : Option Catalog :=
  if (c.schema.table? name).isSome then
    some { c with
      schema.tables := c.schema.tables.filter (·.name ≠ name)
      schema.indexes := c.schema.indexes.filter (·.table ≠ name) }
  else none

def execute? (c : Catalog) : Statement → Option Catalog
  | .createTable table => c.createTable table
  | .createIndex index => c.createIndex index
  | .dropIndex name => c.dropIndex name
  | .dropTable name => c.dropTable name
  | .insertVersion version =>
    if c.hasVersionTable && !c.versions.contains version then
      some { c with versions := c.versions ++ [version] }
    else none
  | .deleteVersion version =>
    if c.hasVersionTable then some { c with versions := c.versions.filter (· ≠ version) } else none

/-- Carries out statements up to the first that is refused; tells whether none was. -/
def executeAll (c : Catalog) : List Statement → Bool × Catalog
  | [] => (true, c)
  | statement :: rest =>
    match c.execute? statement with
    | none => (false, c)
    | some c' => c'.executeAll rest

/-- Adds the version table if it is missing. -/
def withVersionTable (c : Catalog) : Catalog := (c.createTable versionTable).getD c

end Catalog

end Multifiling.Migration
