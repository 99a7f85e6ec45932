import Multifiling.ContentModel
import Multifiling.Entries

/-!
The registry of namespace prefixes and known association types. A prefix registered again keeps its
place and takes the new URI; a URI is shown with the first prefix that has it. The known types are
the built-in and the configured ones, read with the final prefixes.
-/

namespace Multifiling

/-- Prefixes with their URIs, URIs with the prefix that shows them, and known association types. -/
structure Registry where
  uriByPrefix : Entries String String
  prefixByUri : Entries String String
  types : List QName

namespace Registry

/-- The prefix that shows each URI: the first that has it. -/
def firstPrefixes (uriByPrefix : Entries String String) : Entries String String :=
  uriByPrefix.foldl (fun acc (nsPrefix, uri) => acc.putNew uri nsPrefix) []

/-- Reads a prefixed form with the URIs of a table of prefixes. -/
def resolveIn (uriByPrefix : Entries String String) (value : Option String) :
    Except QNameError QName := do
  let name ← PrefixedName.parse value
  match uriByPrefix.get? name.nsPrefix with
  | none => throw ⟨.unknownPrefix name.nsPrefix, value⟩
  | some uri => QName.make uri name.localName

/-- The registry of the built-in and the given prefixes and types, if all types can be read. -/
def build (namespaces : List (String × String)) (associationTypes : List String) :
    Except QNameError Registry := do
  let uriByPrefix := Entries.putAll (Entries.putAll [] ContentModel.namespaces) namespaces
  let types ← (ContentModel.associationTypes ++ associationTypes).mapM fun text =>
    resolveIn uriByPrefix (some text)
  return { uriByPrefix, prefixByUri := firstPrefixes uriByPrefix, types }

def resolve (r : Registry) (value : Option String) : Except QNameError QName :=
  resolveIn r.uriByPrefix value

/-- The prefixed form of a qualified name, if its namespace has a prefix. -/
def prefixedForm (r : Registry) (q : QName) : Except QNameError String :=
  match r.prefixByUri.get? q.namespaceUri with
  | none => .error ⟨.unregisteredNamespace, some q.fullForm⟩
  | some nsPrefix => .ok (nsPrefix ++ ":" ++ q.localName)

def isAssociationType (r : Registry) (q : QName) : Bool := r.types.contains q

/-- A stored full form as it is displayed: in prefixed form if there is one, else as stored. -/
def display (r : Registry) (stored : String) : String :=
  match QName.ofFullForm (some stored) with
  | .error _ => stored
  | .ok q =>
    match r.prefixedForm q with
    | .error _ => stored
    | .ok text => text

end Registry

end Multifiling
