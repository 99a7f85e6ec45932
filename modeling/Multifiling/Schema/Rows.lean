import Multifiling.Entries
import Multifiling.Schema

/-!
Rows under a schema: which inserts a database of a dialect accepts, and what a delete leaves. A row
is accepted if it keeps what the columns, keys and checks of its table and the unique indexes on the
table lay down. A delete is always accepted, and takes or releases the rows that refer to the one
deleted.
-/

namespace Multifiling.Schema

open Database (Dialect)

/-- What stands in a column of a row. -/
inductive Value where
  | null
  | bool (value : Bool)
  | text (value : String)
  | identifier (value : Nat)
  deriving DecidableEq, Repr

/-- A row: the values that an insert gives its columns, as they are stored. What the type of a column
makes of a value is left to the database, and so is the time of an insert. -/
structure Row where
  values : Entries String Value
  deriving DecidableEq, Repr

namespace Row

/-- The value of a column, null if none is given. -/
def value (row : Row) (column : String) : Value := (row.values.get? column).getD .null

/-- Whether two rows have columns in common. -/
def agreesOn (columns : List String) (a b : Row) : Bool :=
  -- nulls differ from everything
  columns.all fun column => a.value column ≠ .null && a.value column = b.value column

end Row

/-- The rows of each table, in the order of their inserts. -/
structure Contents where
  tables : Entries String (List Row) := []
  deriving DecidableEq, Repr

namespace Contents

def rows (c : Contents) (table : String) : List Row := (c.tables.get? table).getD []

def change (c : Contents) (table : String) (f : List Row → List Row) : Contents :=
  ⟨c.tables.put table (f (c.rows table))⟩

end Contents

/-- Whether a column comes to a value that it may have: the one that the row gives it, be it null,
or else its default. -/
def fills (dialect : Dialect) (row : Row) (column : Column) : Bool :=
  match row.values.get? column.name, column.whenOmitted with
  | some value, _ => column.nullable || value ≠ .null
  | none, some default => default.isKnown dialect
  | none, none => column.nullable

/-- Whether a row has a value wherever one is needed. -/
def hasNeeded (dialect : Dialect) (table : Table) (row : Row) : Bool :=
  table.columns.all (fills dialect row)

/-- Whether no row that is there shares a key with another. -/
def keepsKeys (table : Table) (rows : List Row) (row : Row) : Bool :=
  ([table.primaryKey] :: table.uniqueKeys.map (·.columns)).all fun columns =>
    rows.all fun earlier => !row.agreesOn columns earlier

/-- Whether a row passes the checks of its table. -/
def passesChecks (table : Table) (row : Row) : Bool :=
  table.checks.all fun check =>
    row.value check.left = .null || row.value check.left ≠ row.value check.right

/-- Whether every reference of a row leads to one. -/
def keepsReferences (table : Table) (c : Contents) (row : Row) : Bool :=
  table.foreignKeys.all fun key =>
    row.value key.column = .null ||
      (c.rows key.table).any fun referred => referred.value "id" = row.value key.column

/-- Whether an index holds a row: all rows, or those in which the restricting column is true. -/
def holds (dialect : Dialect) (index : Index) (row : Row) : Bool :=
  (index.filterOn dialect).all fun column => row.value column = .bool true

/-- Whether a row keeps an index unique, if that is what the index asks for. -/
def keepsIndex (dialect : Dialect) (rows : List Row) (row : Row) (index : Index) : Bool :=
  !index.unique || !holds dialect index row ||
    rows.all fun earlier => !(holds dialect index earlier && row.agreesOn index.columns earlier)

/-- Whether a database accepts a row into a table. -/
def admits (schema : Schema) (dialect : Dialect) (c : Contents) (name : String) (row : Row) :
    Bool :=
  match schema.table? name with
  | none => false
  | some table =>
    let rows := c.rows name
    hasNeeded dialect table row && keepsKeys table rows row && passesChecks table row &&
      keepsReferences table c row &&
      (schema.indexes.filter (·.table = name)).all (keepsIndex dialect rows row)

/-- A row without a reference. -/
def release (column : String) (row : Row) : Row := ⟨row.values.put column .null⟩

/-- The references to a table: for each, the table that they stand in. -/
def references (schema : Schema) (name : String) : List (String × ForeignKey) :=
  schema.tables.flatMap fun table =>
    (table.foreignKeys.filter (·.table = name)).map fun key => (table.name, key)

/-- The rows left when the row of this identifier is deleted. References are followed through at
most `depth` tables. -/
def deleteRow (schema : Schema) : Nat → String → Value → Contents → Contents
  | 0, _, _, c => c
  | depth + 1, name, id, c =>
    let c := c.change name fun rows => rows.filter (·.value "id" ≠ id)
    (schema.references name).foldl (fun c (table, key) =>
      let refers (row : Row) : Bool := row.value key.column = id
      match key.onDelete with
      | .setNull =>
        c.change table fun rows =>
          rows.map fun row => if refers row then release key.column row else row
      | .cascade =>
        ((c.rows table).filter refers).foldl (fun c row =>
          schema.deleteRow depth table (row.value "id") c) c) c

/-- A change of one row. -/
inductive RowChange where
  | insert (table : String) (row : Row)
  | delete (table : String) (id : Value)
  deriving DecidableEq, Repr

/-- The rows after a change, if the database accepts it. -/
def accept? (schema : Schema) (dialect : Dialect) (c : Contents) : RowChange → Option Contents
  | .insert table row =>
    if schema.admits dialect c table row then some (c.change table (· ++ [row])) else none
  -- a delete of a row that is not there is accepted as well
  | .delete table id =>
    if (schema.table? table).isSome then some (schema.deleteRow schema.tables.length table id c)
    else none

end Multifiling.Schema
