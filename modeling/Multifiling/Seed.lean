import Multifiling.Session

/-!
Sample content: a small tree of folders and documents under a root, some of the documents filed
under a second folder, all owned by one user. Every step tells what it did in a line of text.
-/

namespace Multifiling.Seed

/-- The name of the user that owns the content. -/
def username : String := "admin"

/-- The folders under the root, with the documents in each. -/
def folders : List (String × List String) :=
  [("Projects", ["roadmap.md", "budget.xlsx", "kickoff-notes.txt"]),
   ("Marketing", ["brand-guide.pdf", "launch-plan.docx"]),
   ("Shared", [])]

/-- The documents that are filed under a second folder, with that folder. -/
def filings : List (String × String) :=
  [("roadmap.md", "Shared"), ("launch-plan.docx", "Shared"), ("brand-guide.pdf", "Projects")]

/-- The title of a document: its name up to the last point, or all of it without one. -/
def title (name : String) : String :=
  match name.toList.reverse.dropWhile (· ≠ '.') with
  | [] => name
  | _ :: stem => String.ofList stem.reverse

/-- The owner, found or created, with the line that says which. -/
def owner : Operation (User × String) := do
  Operation.read Store.queried
  match (← get).users.find? (·.username = username) with
  | some user => return (user, "  Found dev user: " ++ user.id.text)
  | none =>
    let user ← Operation.insertUser
      { username := some username, firstName := some "Administrator"
        email := some "admin@localhost" }
    return (user, "  Created dev user: " ++ user.id.text)

def createDocuments (owner : User) (folder : Node) : List String → Operation (List (String × Node))
  | [] => return []
  | name :: rest => do
    let document ← Operation.createNode
      { name := some name, properties := [("title", .string (title name))]
        createdBy := some owner.id } (some folder) true
    return (name, document) :: (← createDocuments owner folder rest)

/-- Creates the folders under the root with their documents; gives the folders and the documents. -/
def createFolders (owner : User) (root : Node) :
    List (String × List String) → Operation (List (String × Node) × List (String × Node))
  | [] => return ([], [])
  | (name, documentNames) :: rest => do
    let folder ← Operation.createNode
      { name := some name, type := ContentModel.folder, createdBy := some owner.id }
      (some root) true
    let documents ← createDocuments owner folder documentNames
    let (laterFolders, laterDocuments) ← createFolders owner root rest
    return ((name, folder) :: laterFolders, documents ++ laterDocuments)

/-- The node that a table has for a name. -/
def entryOf (entries : Entries String Node) (name : String) : Except Failure Node :=
  match entries.get? name with
  | some n => .ok n
  | none => .error (.badArgument (.noEntry name))

/-- Files documents under their second folders; all of them are still at hand. -/
def fileDocuments (folders documents : Entries String Node) :
    List (String × String) → Operation Unit
  | [] => return ()
  | (documentName, folderName) :: rest => do
    let document ← Operation.read fun _ => entryOf documents documentName
    let folder ← Operation.read fun _ => entryOf folders folderName
    match (localNameFor (some document.name)).bind Operation.contentName with
    | .error e => throw (.badName e)
    | .ok name =>
      let _ ← Operation.addChild folder document ContentModel.contains name false ⟨true, true⟩
    fileDocuments folders documents rest

def createTree (owner : User) : Operation (List String) := do
  let root ← Operation.createNode
    { name := some "Company Home", type := ContentModel.folder, createdBy := some owner.id
      isRoot := true } none
  let (madeFolders, madeDocuments) ← createFolders owner root folders
  -- of nodes with one name the last counts
  let folderNodes : Entries String Node := Entries.putAll [] madeFolders
  let documentNodes : Entries String Node := Entries.putAll [] madeDocuments
  fileDocuments folderNodes documentNodes filings
  return [
    "  Created " ++ toString folderNodes.length ++ " folders and " ++
      toString documentNodes.length ++ " documents",
    "  Created " ++ toString filings.length ++ " secondary children",
    "  Root node: " ++ root.id.text]

def clear : Operation (List String) := do
  Operation.read Store.queried
  let s ← get
  set s.clear
  return [
    "  Deleted " ++ toString s.nodes.length ++ " nodes, " ++ toString s.associations.length ++
      " associations",
    "Clear complete."]

/-- Creates the content, unless there is a root already. By force all nodes are removed first. -/
def populate (force : Bool) : Operation (List String) := do
  Operation.read Store.queried
  let hasRoot := (← get).root?.isSome
  if hasRoot && !force then
    return ["Node tree already exists. Use --force to clear and re-seed."]
  let cleared ←
    if hasRoot then
      (fun lines => "Existing data found, clearing first (--force)..." :: lines) <$> clear
    else pure []
  let (user, ownerLine) ← owner
  let tree ← createTree user
  return cleared ++ ["Populating seed data...", ownerLine] ++ tree ++
    ["Seed data created successfully."]

end Multifiling.Seed
