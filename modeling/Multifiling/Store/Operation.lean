import Multifiling.ContentModel
import Multifiling.Store
import Multifiling.Text.Pieces

/-!
Operations that change the store in the open session. An operation that fails keeps what it has
changed; undoing is left to the session. The database refuses rows that break a constraint, as long
as it enforces them.
-/

namespace Multifiling

/-- An operation on the rows of the open session: it ends in a value or a failure, with the rows as
they then are. -/
abbrev Operation := EStateM Failure Store

namespace Operation

/-- Reads the rows without changing them. -/
def read {α : Type} (f : Store → Except Failure α) : Operation α := fun s =>
  match f s with
  | .ok a => .ok a s
  | .error e => .error e s

/-- Fails unless the tables exist; asked before a row is inserted. -/
def writable : Operation Unit := fun s =>
  if s.hasTables then .ok () s else .error (.noTables true) s

/-- Fails with `e` unless the condition holds of the rows. -/
def require (e : Failure) (condition : Store → Bool) : Operation Unit := fun s =>
  if condition s then .ok () s else .error e s

def takeUserId : Operation Uuid := fun s =>
  let k := s.issued.users + 1
  .ok (.ofUser k) { s with issued := { s.issued with users := k } }

def takeNodeId : Operation Uuid := fun s =>
  let k := s.issued.nodes + 1
  .ok (.ofNode k) { s with issued := { s.issued with nodes := k } }

def takeAssociationId : Operation Nat := fun s =>
  let k := s.issued.associations + 1
  .ok k { s with issued := { s.issued with associations := k } }

end Operation

structure UserDraft where
  username : Option String
  firstName : Option String := none
  lastName : Option String := none
  email : Option String := none
  deriving DecidableEq, Repr

structure NodeDraft where
  name : Option String
  type : Option String
  properties : Entries String Json := []
  isRoot : Bool := false
  createdBy : Option Uuid := none
  modifiedBy : Option Uuid := none
  deriving Repr

namespace Store

/-- Whether a reference to a user is absent or leads to one. -/
def refersToUser (s : Store) (reference : Option Uuid) : Bool :=
  reference.all fun id => (s.user? id).isSome

/-- Whether the constraints of the users table let a username in. -/
def admitsUsername (s : Store) (username : String) : Bool :=
  !s.enforces || s.users.all fun u => u.username ≠ username

/-- Whether the constraints of the nodes table let references to users in. -/
def admitsReferences (s : Store) (createdBy modifiedBy : Option Uuid) : Bool :=
  !s.enforces || (s.refersToUser createdBy && s.refersToUser modifiedBy)

/-- Whether two associations may stand beside each other: they differ in parent, child or type, in
parent, type or name, and are not both the primary one of a child. -/
def compatible (a b : Association) : Bool :=
  !(a.parent = b.parent && a.child = b.child && a.type = b.type) &&
    !(a.parent = b.parent && a.type = b.type && a.name = b.name) &&
    !(a.isPrimary && b.isPrimary && a.child = b.child)

/-- Whether the constraints of the associations table let an association in: its ends are two nodes
of the store, and no other association stands in its way. -/
def admitsAssociation (s : Store) (a : Association) : Bool :=
  !s.enforces ||
    (a.parent ≠ a.child && (s.node? a.parent).isSome && (s.node? a.child).isSome &&
      s.associations.all (compatible · a))

end Store

namespace Operation

def insertUser (draft : UserDraft) : Operation User := do
  -- an insert that is refused takes an identifier all the same
  let id ← takeUserId
  writable
  match draft.username with
  | none => throw .rowRefused
  | some username =>
    require .rowRefused (·.admitsUsername username)
    let user : User := ⟨id, username, draft.firstName, draft.lastName, draft.email⟩
    modify fun s => { s with users := s.users ++ [user] }
    return user

def insertNode (draft : NodeDraft) : Operation Node := do
  let id ← takeNodeId
  writable
  match draft.name, draft.type with
  | some name, some type =>
    require .rowRefused (·.admitsReferences draft.createdBy draft.modifiedBy)
    let node : Node :=
      { id, name, type, properties := draft.properties, isRoot := draft.isRoot
        createdBy := draft.createdBy, modifiedBy := draft.modifiedBy }
    modify fun s => { s with nodes := s.nodes ++ [node] }
    return node
  | _, _ => throw .rowRefused

def insertAssociation (parent child : Uuid) (type name : String) (isPrimary : Bool) :
    Operation Association := do
  let id ← takeAssociationId
  let association : Association := { id, parent, child, type, name, isPrimary }
  require .rowRefused (·.admitsAssociation association)
  modify fun s => { s with associations := s.associations ++ [association] }
  return association

/-- The rule that names are unique per parent and type, as the database calls it. -/
def childNameRule : String := "uq_child_assoc_parent_type_name"

/-- A text of a row that is refused, as the message shows it: in quotes, and a long one without its
middle. -/
def shownText (text : String) : List Char :=
  let shown := (Text.quoted text).toList
  if 300 < shown.length then
    shown.take 150 ++
      (" ... (" ++ toString (shown.length - 300) ++ " characters truncated) ... ").toList ++
      shown.drop (shown.length - 150)
  else shown

/-- Whether the message for a refused association speaks of the rule for names. What the checks
leave to the database are other rules, but the message also shows the row. -/
def speaksOfName (type name : QName) : Bool :=
  [type.fullForm, name.fullForm].any fun text =>
    Text.occurs childNameRule.toList (shownText text)

/-- Which nodes of a link were made since the last commit and are still in the caller's hands. When
the work is lost they keep their identifiers. Other nodes have to be read again, and the session
reads nothing any more. -/
structure AtHand where
  parent : Bool := false
  child : Bool := false
  deriving DecidableEq, Repr

/-- What is told of an association that the database refused: that the name is taken if the message
speaks of names, and otherwise that the child is linked already; nothing if that has to name a node
that is not at hand. -/
def toldRefused (parent child : Node) (type name : QName) (atHand : AtHand) : Option Conflict :=
  if speaksOfName type name then
    if atHand.parent then some (.childName parent.id type.fullForm name.localName) else none
  else if atHand.parent && atHand.child then
    some (.association parent.id child.id type.fullForm)
  else none

/-- Links a child to a parent. A child is linked to a parent once per type, and names are unique per
parent and type. -/
def addChild (parent child : Node) (type name : QName) (isPrimary : Bool) (atHand : AtHand := {}) :
    Operation Association := do
  if parent.id = child.id then throw (.badArgument (.ownChild child.id))
  require (.conflict (.association parent.id child.id type.fullForm))
    fun s => !s.hasAssociation parent.id child.id type.fullForm
  require (.conflict (.childName parent.id type.fullForm name.localName))
    fun s => !s.hasChildName parent.id type.fullForm name.fullForm
  try
    insertAssociation parent.id child.id type.fullForm name.fullForm isPrimary
  catch
    | .rowRefused => throw (@Failure.workLost (toldRefused parent child type name atHand))
    | e => throw e

/-- Removes a secondary association, and tells whether it was still there. -/
def removeSecondary (a : Association) : Operation Bool := do
  if a.isPrimary then throw (.badArgument (.removesPrimary a.parent a.child))
  let goes (b : Association) : Bool := b.id = a.id && !b.isPrimary
  let present := (← get).associations.any goes
  modify fun s => { s with associations := s.associations.filter (!goes ·) }
  return present

/-- A name in the content namespace. -/
def contentName (localName : String) : Except QNameError QName :=
  QName.make ContentModel.contentUri localName

/-- A node to be created with its primary association. -/
structure NewNode where
  name : Option String
  type : QName := ContentModel.content
  assocType : QName := ContentModel.contains
  properties : Entries String Json := []
  createdBy : Option Uuid := none
  isRoot : Bool := false

/-- Creates a node and links it to its parent, under the node's own name. The parent may be at hand
like the new node. -/
def createNode (new : NewNode) (parent : Option Node) (parentAtHand : Bool := false) :
    Operation Node := do
  if parent.isNone && !new.isRoot then throw (.badArgument .noParent)
  match (localNameFor new.name).bind contentName with
  | .error e => throw (.badArgument (.nodeName e))
  | .ok name =>
    let node ← insertNode
      { name := new.name, type := some new.type.fullForm, properties := new.properties
        isRoot := new.isRoot, createdBy := new.createdBy, modifiedBy := new.createdBy }
    -- where the name is taken, the node stays behind without a parent
    if let some parent := parent then
      let _ ← addChild parent node new.assocType name true ⟨parentAtHand, true⟩
    return node

end Operation

end Multifiling
