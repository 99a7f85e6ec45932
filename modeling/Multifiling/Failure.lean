import Multifiling.QName
import Multifiling.Uuid

/-!
Why an operation on the repository fails, and the wording of each reason.
-/

namespace Multifiling

/-- What a new association would repeat. -/
inductive Conflict where
  /-- The child is already linked to the parent with this type. -/
  | association (parent child : Uuid) (type : String)
  /-- The parent already has a child of this name for this type. -/
  | childName (parent : Uuid) (type name : String)
  deriving DecidableEq, Repr

def Conflict.message : Conflict → String
  | .association parent child type =>
    "Association already exists: parent=" ++ parent.text ++ ", child=" ++ child.text ++ ", type=" ++
      type
  | .childName parent type name =>
    "Duplicate child name not allowed: " ++ name ++ " (parent=" ++ parent.text ++ ", type=" ++
      type ++ ")"

/-- An argument that is malformed or not allowed. -/
inductive BadArgument where
  | missingType
  | malformedType (given : String)
  | unknownType (given : String)
  /-- A text that is no string names no type that is known. -/
  | brokenType
  | ownChild (node : Uuid)
  | removesPrimary (parent child : Uuid)
  | deletesPrimary (parent type child : String)
  | noParent
  /-- A table has no entry for a name. -/
  | noEntry (name : String)
  | nodeName (error : QNameError)
  | childName (child : Uuid) (error : QNameError)
  deriving DecidableEq, Repr

/-- The wording of a refusal; one that would show a text that is no string cannot be written. -/
def BadArgument.message? : BadArgument → Option String
  | .missingType => some "Missing assocType"
  | .malformedType given => some ("Invalid assocType: " ++ given)
  | .unknownType given => some ("Unknown assocType: " ++ given)
  | .brokenType => none
  | .ownChild node => some ("Cannot add node as a child of itself: " ++ node.text)
  | .removesPrimary parent child =>
    some ("Cannot remove primary association: " ++ parent.text ++ " -> " ++ child.text)
  | .deletesPrimary parent type child =>
    some ("Cannot use secondary-children to delete primary assoc: " ++ parent ++ "," ++ type ++
      "," ++ child)
  | .noParent => some "A non-root node must have a primary parent"
  | .noEntry name => some (Text.quoted name)
  | .nodeName error => some error.message
  | .childName child error =>
    some ("Invalid child name for " ++ child.text ++ ": " ++ error.message)

/-- Why an operation fails. -/
inductive Failure where
  /-- The text names no node; none is what the caller gave. -/
  | nodeNotFound (given : Option String)
  | badArgument (argument : BadArgument)
  /-- The store found a conflict. -/
  | conflict (conflict : Conflict)
  /-- A link that a caller wants to create conflicts with what is there. -/
  | linkConflict (conflict : Conflict)
  | associationNotFound (parent : String) (type : Option String) (child : String)
  | badName (error : QNameError)
  /-- The database refused a row. -/
  | rowRefused
  /-- The database refused an association, and the work since the last commit is lost. It is told as
  a conflict that the checks should have found, or not at all: what the conflict is told of may be
  lost itself. -/
  | workLost {told : Option Conflict}
  /-- The tables are gone; the flag says whether the database was asked to insert a row. -/
  | noTables (inserting : Bool)
  /-- A node has more than one primary parent. -/
  | severalPrimaryParents
  deriving DecidableEq, Repr

namespace Failure

/-- The wording of a failure; those of the database itself have none. -/
def message? : Failure → Option String
  | .nodeNotFound given => some ("Node not found: " ++ given.getD "None")
  | .badArgument argument => argument.message?
  | .conflict c => some c.message
  | .linkConflict c => some c.message
  | .associationNotFound parent none child => some (parent ++ "," ++ child)
  | .associationNotFound parent (some type) child => some (parent ++ "," ++ type ++ "," ++ child)
  | .badName error => some error.message
  | @workLost told => told.map Conflict.message
  | .rowRefused | .noTables _ | .severalPrimaryParents => none

/-- Whether the database undoes all work since the last commit. -/
def undoesWork : Failure → Bool
  | .rowRefused | .workLost => true
  | .noTables inserting => inserting
  | _ => false

end Failure

end Multifiling
