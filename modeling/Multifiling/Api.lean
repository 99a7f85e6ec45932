import Multifiling.Api.Query
import Multifiling.Api.Route
import Multifiling.Filing
import Multifiling.Json.Reader
import Multifiling.Session
import Multifiling.Settings

/-!
The API: requests to the secondary children of a node, and the health check. Each request is a unit
of work of its own, which is committed if it is answered with success and undone otherwise. What is
wrong with the form of a request is answered before anything is looked up.
-/

namespace Multifiling.Api

/-- What requests are answered with beside the store: the registry and the page sizes. -/
structure Config where
  registry : Registry
  defaultPageSize : Int
  maxPageSize : Int

def Config.ofSettings (settings : Settings) : Except QNameError Config :=
  (Registry.build settings.namespaces settings.associationTypes).map fun registry =>
    { registry, defaultPageSize := settings.defaultPageSize, maxPageSize := settings.maxPageSize }

/-- A request; the path stands without its leading slash, with its percent signs decoded. -/
structure Request where
  method : String
  path : String
  query : List (String × String) := []
  body : Option String := none
  deriving DecidableEq, Repr

/-- The value of a query parameter; the last of several counts. -/
def Request.parameter? (r : Request) (name : String) : Option String :=
  (r.query.reverse.find? fun (key, _) => key = name).map (·.2)

/-- An answer: its status and what its body holds, if it has one. -/
structure Response where
  status : Nat
  body : Option Json
  deriving Repr

namespace Response

def refuse (status : Nat) (detail : Json) : Response :=
  ⟨status, some (.object [("detail", detail)])⟩

/-- The answer to a request that could not be carried out. -/
def crash : Response := ⟨500, none⟩

def partJson : PathPart → Json
  | .key name => .string name
  | .index position => .int position

def issueJson (issue : Issue) : Json :=
  .object [("type", .string issue.kind.code), ("loc", .array (issue.place.map partJson)),
    ("msg", .string issue.kind.message)]

/-- The refusal of a request that is wrong in form. -/
def invalid (issues : List Issue) : Response := refuse 422 (.array (issues.map issueJson))

def ofQueryError (e : QueryError) : Response := refuse e.status (.string e.message)

/-- The status of a failure that callers can bring about, with the detail they get. -/
def refusal? : Failure → Option (Nat × Json)
  | e@(.nodeNotFound _) | e@(.associationNotFound _ _ _) =>
    some (404, .string (e.message?.getD ""))
  | .badArgument argument => argument.message?.map fun message => (400, .string message)
  | .linkConflict c =>
    some (409, .object [("message", .string c.message),
      ("error_code", .string "CONSTRAINT_VIOLATED")])
  | _ => none

def ofFailure (e : Failure) : Response :=
  match refusal? e with
  | some (status, detail) => refuse status detail
  | none => crash

end Response

/-- The health check: whether the tables can be read. -/
def health (s : Store) : Response :=
  let (status, database) :=
    if s.hasTables then ("healthy", "healthy") else ("degraded", "unhealthy")
  ⟨200, some (.object [("status", .string status), ("database", .string database)])⟩

/-- A page of a listing as it is answered. -/
def pageJson (views : List NodeView) (total : Nat) (offset limit : Int) : Json :=
  .object [("items", .array (views.map NodeView.toJson)), ("total", .int total),
    ("offset", .int offset), ("limit", .int limit),
    ("has_more", .bool (offset + views.length < total))]

def list (config : Config) (parent : String) (r : Request) (s : Store) : Response :=
  match Page.read (r.parameter? "offset") (r.parameter? "limit") with
  | .error issues => .invalid issues
  | .ok page =>
    match readWhere (r.parameter? "where"), readInclude (r.parameter? "include") with
    | .error e, _ => .ofQueryError e
    | .ok _, .error e => .ofQueryError e
    | .ok assocType, .ok includes =>
      let limit := page.size config.defaultPageSize config.maxPageSize
      match Filing.list s config.registry parent assocType includes page.offset limit with
      | .error e => .ofFailure e
      | .ok (views, total) => ⟨200, some (pageJson views total page.offset limit)⟩

/-- Reads the body of a create request. -/
def readBody (body : Option String) : Except Response (LinkBody SentText) :=
  let missing : Response := .invalid [⟨.missing, [.key "body"]⟩]
  match body with
  | none => .error missing
  | some text =>
    -- an empty body is as good as none
    if text = "" then .error missing
    else
      match Json.parseSent text with
      | .error .malformed => .error (.invalid [⟨.notJson, [.key "body"]⟩])
      | .error _ => .error (.refuse 400 (.string "There was an error parsing the body"))
      | .ok value =>
        match LinkBody.ofJson value with
        | .ok links => .ok links
        | .error issues =>
          -- the answer would repeat the value, so it needs to have a JSON text
          if value.written?.isNone then .error .crash
          else .error (.invalid (issues.map (Issue.under [.key "body"])))

/-- Files children under a node. -/
def create (config : Config) (parent : String) (r : Request) (s : Store) : Response × Store :=
  match readBody r.body with
  | .error response => (response, s)
  | .ok body =>
    match (Filing.create config.registry parent body.links).transact s with
    | (.error e, s') => (.ofFailure e, s')
    | (.ok made, s') =>
      match (body.answer? made).bind Json.written? with
      | some json => (⟨201, some json⟩, s')
      -- the work is only committed if it can be answered
      | none => (.crash, s'.restore s)

def delete (config : Config) (parent child : String) (r : Request) (s : Store) :
    Response × Store :=
  let operation := Filing.delete config.registry parent child (r.parameter? "assocType")
  match operation.transact s with
  | (.error e, s') => (.ofFailure e, s')
  | (.ok _, s') => (⟨204, none⟩, s')

/-- Answers a request as one whose answer may have a body. -/
def respond (config : Config) (r : Request) (s : Store) : Response × Store :=
  match Route.ofPath r.path with
  | .unknown => (.refuse 404 (.string "Not Found"), s)
  | .slashed => (⟨307, none⟩, s)
  | route =>
    match route, Method.ofWord? r.method with
    | .health, some .get => (health s, s)
    | .children parent, some .get => (list config parent r s, s)
    | .children parent, some .post => create config parent r s
    | .child parent child, some .delete => delete config parent child r s
    | _, _ => (.refuse 405 (.string "Method Not Allowed"), s)

/-- Answers a request on the committed rows, and gives the rows then committed. -/
def serve (config : Config) (r : Request) (s : Store) : Response × Store :=
  let (response, s') := respond config r s
  (if Method.ofWord? r.method = some .head then { response with body := none } else response, s')

end Multifiling.Api
