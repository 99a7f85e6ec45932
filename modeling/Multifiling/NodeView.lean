import Multifiling.ChildLink
import Multifiling.Registry
import Multifiling.Store.PrimaryPath

/-!
Nodes as callers see them: a short view, and on request the properties and the primary path. The
users that were looked up are remembered for the views that follow in the same call. The times at
which a node was created and last modified are left out.
-/

namespace Multifiling

structure UserView where
  id : Uuid
  displayName : String
  deriving DecidableEq, Repr

/-- A node on a primary path as shown. -/
structure PathElement where
  id : Uuid
  name : String
  deriving DecidableEq, Repr

/-- A primary path as shown, topmost node first. -/
structure PathView where
  name : String
  isComplete : Bool
  elements : List PathElement
  deriving DecidableEq, Repr

/-- A node as shown, but for `created_at` and `modified_at`. -/
structure NodeView where
  id : Uuid
  name : String
  nodeType : String
  isFolder : Bool
  isFile : Bool
  parent : Option Uuid
  createdBy : Option UserView
  modifiedBy : Option UserView
  association : Option ChildLink := none
  properties : Option (Entries String Json) := none
  path : Option PathView := none
  deriving Repr

/-- What a view can be asked to hold beside its short form. -/
inductive Include where
  | path
  | properties
  deriving DecidableEq, Repr

namespace Include

def all : List Include := [.path, .properties]

def word : Include → String
  | .path => "path"
  | .properties => "properties"

def ofWord? (w : String) : Option Include := all.find? (·.word = w)

end Include

namespace NodeView

/-- The users shown so far in a call. -/
abbrev Users := Entries Uuid UserView

/-- The user behind a reference, from the users shown so far or else from the store. -/
def user (s : Store) (users : Users) : Option Uuid → Option UserView × Users
  | none => (none, users)
  | some id =>
    match users.get? id with
    | some view => (some view, users)
    | none =>
      match s.user? id with
      | none => (none, users)
      | some u =>
        let view : UserView := ⟨id, u.displayName⟩
        (some view, users.put id view)

/-- A primary path as shown. -/
def pathOf (ancestors : List Node) : PathView where
  name := "/" ++ "/".intercalate (ancestors.map (·.name))
  -- a node without ancestors stands at the top itself
  isComplete := (ancestors.head?.map (·.isRoot)).getD true
  elements := ancestors.map fun a => ⟨a.id, a.name⟩

/-- The view of a node, and the users shown so far with those of this view. The times of its row,
which the view would take over unread, are left out. -/
def build (s : Store) (registry : Registry) (includes : List Include) (users : Users) (n : Node) :
    Except Failure (NodeView × Users) := do
  let primary ← s.primaryParent n.id
  let (createdBy, users) := user s users n.createdBy
  let (modifiedBy, users) := user s users n.modifiedBy
  let path ←
    if includes.contains .path then (s.primaryPath n).map (some ∘ pathOf) else pure none
  let view : NodeView :=
    { id := n.id
      name := n.name
      nodeType := registry.display n.type
      isFolder := n.type = ContentModel.folder.fullForm
      isFile := n.type = ContentModel.content.fullForm
      parent := primary.map (·.parent)
      createdBy, modifiedBy, path
      properties := if includes.contains .properties then some n.properties else none }
  return (view, users)

def idJson : Option Uuid → Json
  | none => .null
  | some id => .string id.text

def userJson : Option UserView → Json
  | none => .null
  | some u => .object [("id", .string u.id.text), ("display_name", .string u.displayName)]

def pathJson : Option PathView → Json
  | none => .null
  | some path =>
    .object [("name", .string path.name), ("is_complete", .bool path.isComplete),
      ("elements", .array (path.elements.map fun e =>
        .object [("id", .string e.id.text), ("name", .string e.name)]))]

/-- The JSON of a view. Its fields `created_at` and `modified_at`, which would come after
`parent_id`, are left out. -/
def toJson (view : NodeView) : Json :=
  .object [
    ("id", .string view.id.text),
    ("name", .string view.name),
    ("node_type", .string view.nodeType),
    ("is_folder", .bool view.isFolder),
    ("is_file", .bool view.isFile),
    ("parent_id", idJson view.parent),
    ("created_by_user", userJson view.createdBy),
    ("modified_by_user", userJson view.modifiedBy),
    ("association", (view.association.map ChildLink.toJson).getD .null),
    ("properties", (view.properties.map Json.object).getD .null),
    ("path", pathJson view.path)]

end NodeView

end Multifiling
