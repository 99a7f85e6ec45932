import Multifiling.Schema

/-!
The schema of a repository: users, nodes, and the associations from parents to children. A child is
linked to a parent once per type, names are unique per parent and type, no node is its own child,
and a child has at most one primary parent.
-/

namespace Multifiling.Schema

/-- An identifier that every row has. -/
def identifier : Column := { name := "id", type := .identifier }

/-- When a row was created and when it was last changed. -/
def timestamps : List Column :=
  [{ name := "created_at", type := .timestamp, whenOmitted := some .insertTime },
   { name := "updated_at", type := .timestamp, whenOmitted := some .insertTime }]

/-- A text of at most 255 characters. -/
def shortText (name : String) (nullable : Bool := false) : Column :=
  { name, type := .text 255, nullable }

def users : Table where
  name := "users"
  columns :=
    [identifier, shortText "username", shortText "first_name" true, shortText "last_name" true,
      shortText "email" true] ++ timestamps

def nodes : Table where
  name := "nodes"
  columns :=
    [identifier, shortText "name", shortText "node_type", { name := "properties", type := .json },
      { name := "is_root", type := .boolean },
      { name := "created_by_id", type := .identifier, nullable := true },
      { name := "modified_by_id", type := .identifier, nullable := true }] ++ timestamps
  foreignKeys := [⟨"created_by_id", "users", .setNull⟩, ⟨"modified_by_id", "users", .setNull⟩]

def childAssociations : Table where
  name := "child_associations"
  columns :=
    [identifier, { name := "parent_id", type := .identifier },
      { name := "child_id", type := .identifier }, shortText "type_qname", shortText "qname",
      { name := "is_primary", type := .boolean }] ++ timestamps
  foreignKeys := [⟨"parent_id", "nodes", .cascade⟩, ⟨"child_id", "nodes", .cascade⟩]
  uniqueKeys :=
    [⟨"uq_child_assoc_parent_child_type", ["parent_id", "child_id", "type_qname"]⟩,
      ⟨"uq_child_assoc_parent_type_name", ["parent_id", "type_qname", "qname"]⟩]
  checks := [⟨"ck_child_assoc_no_self_reference", "parent_id", "child_id"⟩]

/-- Usernames are unique. -/
def usernameIndex : Index :=
  { name := "ix_users_username", table := "users", columns := ["username"], unique := true }

/-- Finds the associations of a child. -/
def childIndex : Index :=
  { name := "ix_child_associations_child_id", table := "child_associations",
    columns := ["child_id"] }

/-- Finds the associations of a parent, all or those of one type. -/
def parentIndex : Index :=
  { name := "ix_child_assoc_parent", table := "child_associations",
    columns := ["parent_id", "type_qname"] }

/-- Lets a child have one primary parent. Being restricted to primary associations, it leaves the
secondary ones free. -/
def primaryChildIndex : Index :=
  { name := "uq_child_assoc_primary_child", table := "child_associations",
    columns := ["child_id"], unique := true,
    filter := some ⟨"is_primary", [.postgresql, .sqlite]⟩ }

/-- The schema that operations on a repository rely on. -/
def repository : Schema where
  tables := [users, nodes, childAssociations]
  indexes := [usernameIndex, childIndex, parentIndex, primaryChildIndex]

end Multifiling.Schema
