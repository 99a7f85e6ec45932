import Multifiling.Schema

/-!
The migration of a database to the schema of a repository. There is one revision, which describes
the tables anew. A database stands before it, at the base, or at it, the head; a table of its own
holds the revision that it stands at.
-/

namespace Multifiling.Migration

/-- The identifier of the revision. -/
def revision : String := "5c1e9a7d2b40"

def title : String := "Add users, nodes and child_associations tables."

/-- Where a database stands. -/
inductive Stage where
  | base
  | head
  deriving DecidableEq, Repr

/-- The revisions that are in the version table at a stage. -/
def Stage.versions : Stage → List String
  | .base => []
  | .head => [revision]

/-- The table that holds the revision that a database stands at. -/
def versionTable : Table where
  name := "alembic_version"
  columns := [{ name := "version_num", type := .text 32 }]
  primaryKey := "version_num"
  primaryKeyName := some "alembic_version_pkc"

/-- One change to a database. -/
inductive Statement where
  | createTable (table : Table)
  | createIndex (index : Index)
  | dropIndex (name : String)
  | dropTable (name : String)
  | insertVersion (version : String)
  | deleteVersion (version : String)
  deriving DecidableEq, Repr

/-! ### The tables as the revision lays them down -/

/-- The time of the insert is asked for by a text, and not in the words of each dialect. -/
def timestamp (name : String) : Column := { name, type := .timestamp, whenOmitted := some .nowCall }

def users : Table where
  name := "users"
  columns :=
    [{ name := "id", type := .identifier },
     { name := "username", type := .text 255 },
     { name := "first_name", type := .text 255, nullable := true },
     { name := "last_name", type := .text 255, nullable := true },
     { name := "email", type := .text 255, nullable := true },
     timestamp "created_at",
     timestamp "updated_at"]

def nodes : Table where
  name := "nodes"
  columns :=
    [{ name := "id", type := .identifier },
     { name := "name", type := .text 255 },
     { name := "node_type", type := .text 255 },
     { name := "properties", type := .json },
     { name := "is_root", type := .boolean },
     { name := "created_by_id", type := .identifier, nullable := true },
     { name := "modified_by_id", type := .identifier, nullable := true },
     timestamp "created_at",
     timestamp "updated_at"]
  foreignKeys :=
    [{ column := "created_by_id", table := "users", onDelete := .setNull },
     { column := "modified_by_id", table := "users", onDelete := .setNull }]

def childAssociations : Table where
  name := "child_associations"
  columns :=
    [{ name := "id", type := .identifier },
     { name := "parent_id", type := .identifier },
     { name := "child_id", type := .identifier },
     { name := "type_qname", type := .text 255 },
     { name := "qname", type := .text 255 },
     { name := "is_primary", type := .boolean },
     timestamp "created_at",
     timestamp "updated_at"]
  foreignKeys :=
    [{ column := "parent_id", table := "nodes", onDelete := .cascade },
     { column := "child_id", table := "nodes", onDelete := .cascade }]
  uniqueKeys :=
    [{ name := "uq_child_assoc_parent_child_type",
       columns := ["parent_id", "child_id", "type_qname"] },
     { name := "uq_child_assoc_parent_type_name",
       columns := ["parent_id", "type_qname", "qname"] }]
  checks :=
    [{ name := "ck_child_assoc_no_self_reference", left := "parent_id", right := "child_id" }]

def usernameIndex : Index :=
  { name := "ix_users_username", table := "users", columns := ["username"], unique := true }

def childIndex : Index :=
  { name := "ix_child_associations_child_id", table := "child_associations",
    columns := ["child_id"] }

def parentIndex : Index :=
  { name := "ix_child_assoc_parent", table := "child_associations",
    columns := ["parent_id", "type_qname"] }

/-- The condition is there for one dialect only. -/
def primaryChildIndex : Index :=
  { name := "uq_child_assoc_primary_child", table := "child_associations",
    columns := ["child_id"], unique := true, filter := some ⟨"is_primary", [.postgresql]⟩ }

/-- Leads from the base to the head. -/
def upgrade : List Statement :=
  [.createTable users,
   .createIndex usernameIndex,
   .createTable nodes,
   .createTable childAssociations,
   .createIndex childIndex,
   .createIndex parentIndex,
   .createIndex primaryChildIndex]

/-- Leads from the head to the base. -/
def downgrade : List Statement :=
  [.dropIndex "uq_child_assoc_primary_child",
   .dropIndex "ix_child_assoc_parent",
   .dropIndex "ix_child_associations_child_id",
   .dropTable "child_associations",
   .dropTable "nodes",
   .dropIndex "ix_users_username",
   .dropTable "users"]

/-- What can be done to where a database stands. Stamping changes the version alone. -/
inductive Action where
  | upgrade
  | downgrade
  | stamp
  deriving DecidableEq, Repr

/-- A step of an action to another stage. -/
structure Step where
  action : Action
  target : Stage
  deriving DecidableEq, Repr

namespace Step

def schemaChanges (step : Step) : List Statement :=
  match step.action with
  | .upgrade => Migration.upgrade
  | .downgrade => Migration.downgrade
  | .stamp => []

def versionChange (step : Step) : Statement :=
  match step.target with
  | .base => .deleteVersion revision
  | .head => .insertVersion revision

/-- All changes in order: the version is the last. -/
def statements (step : Step) : List Statement := step.schemaChanges ++ [step.versionChange]

end Step

end Multifiling.Migration
