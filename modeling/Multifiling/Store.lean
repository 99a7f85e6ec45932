import Multifiling.Failure
import Multifiling.Json

/-!
The rows of a repository: users, nodes, and the associations from parents to children. Rows stand
in the order in which they were inserted, which is also the order of their identifiers. A node has
one primary parent, or none if it is the root, and any number of secondary parents. The times at
which rows were inserted and last changed are left out, since the database's clock sets them and
nothing here depends on them; and so are stored texts with half of a surrogate pair.
-/

namespace Multifiling

/-- A user, referred to by nodes as creator and last modifier. -/
structure User where
  id : Uuid
  username : String
  firstName : Option String
  lastName : Option String
  email : Option String
  deriving DecidableEq, Repr

/-- The parts of a name that are known, joined by a space; without any, the username. -/
def displayName (username : String) (firstName lastName : Option String) : String :=
  match ([firstName, lastName].filterMap id).filter (· ≠ "") with
  | [] => username
  | parts => " ".intercalate parts

def User.displayName (u : User) : String :=
  Multifiling.displayName u.username u.firstName u.lastName

/-- A folder, a document or another node of the repository. -/
structure Node where
  id : Uuid
  name : String
  /-- The full form of the node's type. -/
  type : String
  properties : Entries String Json
  isRoot : Bool
  createdBy : Option Uuid
  modifiedBy : Option Uuid
  deriving Repr

/-- A property of a node; its name is one of them. -/
def Node.property (n : Node) (key : String) : Json :=
  if key = "name" then .string n.name else (n.properties.get? key).getD .null

/-- A directed edge from a parent to a child; type and name are in full form. -/
structure Association where
  id : Nat
  parent : Uuid
  child : Uuid
  type : String
  name : String
  isPrimary : Bool
  deriving DecidableEq, Repr

/-- How many inserts into each table have been tried; undone and refused ones count too. -/
structure Issued where
  users : Nat := 0
  nodes : Nat := 0
  associations : Nat := 0
  deriving DecidableEq, Repr

/-- The rows of a repository, with what the database knows beside them. -/
structure Store where
  users : List User := []
  nodes : List Node := []
  associations : List Association := []
  issued : Issued := {}
  /-- Whether the tables exist. -/
  hasTables : Bool := true
  /-- Whether the database itself refuses rows that break a constraint. -/
  enforces : Bool := true
  deriving Repr

namespace Store

def user? (s : Store) (id : Uuid) : Option User := s.users.find? (·.id = id)

def node? (s : Store) (id : Uuid) : Option Node := s.nodes.find? (·.id = id)

/-- The root: the first node so marked. -/
def root? (s : Store) : Option Node := s.nodes.find? (·.isRoot)

/-- The associations of a parent, all or those of one type. -/
def children (s : Store) (parent : Uuid) (type : Option String) : List Association :=
  s.associations.filter fun a => a.parent = parent && type.all (a.type = ·)

/-- The primary association of a child, if it has one. -/
def primaryParent (s : Store) (child : Uuid) : Except Failure (Option Association) :=
  match s.associations.filter fun a => a.child = child && a.isPrimary with
  | [] => .ok none
  | [a] => .ok (some a)
  -- more than one cannot be told apart
  | _ => .error .severalPrimaryParents

/-- Whether a child is linked to a parent with this type. -/
def hasAssociation (s : Store) (parent child : Uuid) (type : String) : Bool :=
  s.associations.any fun a => a.parent = parent && a.child = child && a.type = type

/-- Whether a parent has a child of this name for this type. -/
def hasChildName (s : Store) (parent : Uuid) (type name : String) : Bool :=
  s.associations.any fun a => a.parent = parent && a.type = type && a.name = name

/-- Asks the database for rows, which fails without tables. -/
def queried (s : Store) : Except Failure Unit :=
  if s.hasTables then .ok () else .error (.noTables false)

def readId (given : Option String) : Except Failure Uuid :=
  match given.bind Uuid.parse? with
  | none => .error (.nodeNotFound given)
  | some id => .ok id

/-- The node that a text names. -/
def resolve (s : Store) (given : Option String) : Except Failure Node := do
  let id ← readId given
  s.queried
  match s.node? id with
  | none => .error (.nodeNotFound given)
  | some n => .ok n

/-- The text that names the root. -/
def rootAlias : String := "-root-"

/-- The node that a text names, the root's own text included. -/
def lookup (s : Store) (given : Option String) : Except Failure Node :=
  if given = some rootAlias then do
    s.queried
    match s.root? with
    | none => .error (.nodeNotFound given)
    | some n => .ok n
  else s.resolve given

/-- The rows of another store with the insert counts of this one: what undoing work leaves. -/
def restore (s earlier : Store) : Store := { earlier with issued := s.issued }

/-- The numbers of users, nodes and associations, if there are tables. -/
def rowCounts? (s : Store) : Option (Nat × Nat × Nat) :=
  if s.hasTables then some (s.users.length, s.nodes.length, s.associations.length) else none

/-- Removes a node and the associations at either end of which it stands. -/
def removeNode (s : Store) (id : Uuid) : Store :=
  { s with
    nodes := s.nodes.filter (·.id ≠ id)
    associations := s.associations.filter fun a => a.parent ≠ id && a.child ≠ id }

/-- A reference without the user that is to go. -/
def withoutUser (id : Uuid) (reference : Option Uuid) : Option Uuid :=
  if reference = some id then none else reference

/-- Removes a user; nodes no longer refer to it. -/
def removeUser (s : Store) (id : Uuid) : Store :=
  { s with
    users := s.users.filter (·.id ≠ id)
    nodes := s.nodes.map fun n =>
      { n with
        createdBy := withoutUser id n.createdBy
        modifiedBy := withoutUser id n.modifiedBy } }

/-- Removes all nodes and associations. -/
def clear (s : Store) : Store := { s with nodes := [], associations := [] }

def dropTables (s : Store) : Store :=
  { s with users := [], nodes := [], associations := [], hasTables := false }

end Store

end Multifiling
