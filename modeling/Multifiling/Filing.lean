import Multifiling.NodeView
import Multifiling.Store.Operation

/-!
Filing nodes under further parents. A secondary association shows a node under another parent and
leaves its primary parent, its place in the tree, alone. Here secondary associations are listed,
created and deleted; primary ones are never touched.
-/

namespace Multifiling.Filing

/-- The known association type that a caller's text names. -/
def readType (registry : Registry) (given : String) : Except Failure QName :=
  match registry.resolve (some given) with
  | .error _ => .error (.badArgument (.malformedType given))
  | .ok type =>
    if registry.isAssociationType type then .ok type
    else .error (.badArgument (.unknownType given))

/-- The text of an association type, unless it is absent or blank. -/
def givenType (given : Option String) : Option String :=
  given.filter fun text => !Text.isBlankText text

def requiredType {τ : Type} [TextForm τ] (registry : Registry) (given : Option τ) :
    Except Failure QName :=
  -- no known type has a text that is no string
  if given.any fun text => (TextForm.string? text).isNone then .error (.badArgument .brokenType)
  else
    match givenType (given.bind TextForm.string?) with
    | none => .error (.badArgument .missingType)
    | some text => readType registry text

def optionalType (registry : Registry) (given : Option String) : Except Failure (Option QName) :=
  match givenType given with
  | none => .ok none
  | some text => (readType registry text).map some

/-- A position in a list of `size` elements; one below zero counts from the end. -/
def position (size : Nat) (i : Int) : Nat := (if i < 0 then i + size else i).toNat

/-- The elements from one position up to another. -/
def window {α : Type} (xs : List α) (first last : Int) : List α :=
  (xs.take (position xs.length last)).drop (position xs.length first)

/-- What is remembered while a page is built: the types and the users shown so far. -/
structure Shown where
  types : Entries String String := []
  users : NodeView.Users := []

/-- The displayed form of a stored type, from those shown so far or else from the registry. -/
def showType (registry : Registry) (shown : Shown) (stored : String) : String × Shown :=
  match shown.types.get? stored with
  | some text => (text, shown)
  | none =>
    let text := registry.display stored
    (text, { shown with types := shown.types.put stored text })

/-- The view of an association's child, with the association itself. -/
def showAssociation (s : Store) (registry : Registry) (includes : List Include) (shown : Shown)
    (a : Association) : Except Failure (NodeView × Shown) := do
  let child ← match s.node? a.child with
    | some n => pure n
    | none => throw (.nodeNotFound (some a.child.text))
  let (view, users) ← NodeView.build s registry includes shown.users child
  let (type, shown) := showType registry { shown with users } a.type
  return ({ view with association := some ⟨child.id.text, some type, a.isPrimary⟩ }, shown)

/-- The views of associations in order, each with what the earlier ones have shown. -/
def showAll (s : Store) (registry : Registry) (includes : List Include) (shown : Shown) :
    List Association → Except Failure (List NodeView)
  | [] => .ok []
  | a :: rest => do
    let (view, shown) ← showAssociation s registry includes shown a
    let views ← showAll s registry includes shown rest
    return view :: views

/-- The secondary associations of a parent, all or those of one type. -/
def secondary (s : Store) (parent : Uuid) (type : Option QName) : List Association :=
  (s.children parent (type.map QName.fullForm)).filter (!·.isPrimary)

/-- A page of the secondary children of a parent, and how many there are in all. -/
def list (s : Store) (registry : Registry) (parentId : String) (assocType : Option String)
    (includes : List Include) (offset limit : Int) : Except Failure (List NodeView × Nat) := do
  let parent ← s.lookup (some parentId)
  let type ← optionalType registry assocType
  let found := secondary s parent.id type
  let views ← showAll s registry includes {} (window found offset (offset + limit))
  return (views, found.length)

section
variable {τ : Type}

/-- Links one child to the parent, under the child's current name. -/
def createOne (parent : Node) (link : ChildLink τ) (type : QName) :
    Operation (ChildLink τ) := do
  let child ← Operation.read (·.resolve (some link.childId))
  match (localNameFor (some child.name)).bind Operation.contentName with
  | .error e => throw (.badArgument (.childName child.id e))
  | .ok name =>
    try
      let _ ← Operation.addChild parent child type name false
      return link
    catch
      | .conflict c => throw (.linkConflict c)
      | e => throw e

/-- Links children to the parent in order, up to the first that fails. -/
def createEach (parent : Node) : List (ChildLink τ × QName) → Operation (List (ChildLink τ))
  | [] => return []
  | (link, type) :: rest => do
    let first ← createOne parent link type
    let later ← createEach parent rest
    return first :: later

/-- Files children under a parent. -/
def create [TextForm τ] (registry : Registry) (parentId : String) (links : List (ChildLink τ)) :
    Operation (List (ChildLink τ)) := do
  let parent ← Operation.read (·.resolve (some parentId))
  -- all types are read before anything is written
  let types ← Operation.read fun _ => links.mapM fun link => requiredType registry link.assocType
  createEach parent (links.zip types)

end

/-- Removes the secondary ones among associations of one parent that lead to a child, all or those
of one type, and tells whether there was one. -/
def deleteEach (refused : Failure) (child : Uuid) (type : Option QName) (found : Bool) :
    List Association → Operation Bool
  | [] => return found
  | a :: rest => do
    if a.child ≠ child || !(type.all fun t => a.type = t.fullForm) then
      deleteEach refused child type found rest
    else if a.isPrimary then
      -- a primary one is refused if its type was asked for, and otherwise passed over
      if type.isSome then throw refused
      deleteEach refused child type found rest
    else
      let removed ← Operation.removeSecondary a
      deleteEach refused child type (found || removed) rest

/-- Removes the secondary associations from a parent to a child, all or the one of a type. -/
def delete (registry : Registry) (parentId childId : String) (assocType : Option String) :
    Operation Unit := do
  let parent ← Operation.read (·.resolve (some parentId))
  let child ← Operation.read (·.resolve (some childId))
  let type ← Operation.read fun _ => optionalType registry assocType
  let associations := (← get).children parent.id none
  -- only met where a type was given, so the empty text is never shown
  let refused := .badArgument (.deletesPrimary parentId (assocType.getD "") childId)
  let found ← deleteEach refused child.id type false associations
  if !found then throw (.associationNotFound parentId assocType childId)

end Multifiling.Filing
