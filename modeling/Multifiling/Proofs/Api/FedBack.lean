import Multifiling.Proofs.Api.Page
import Multifiling.Proofs.Api.Reached
import Multifiling.Proofs.Api.Where
import Multifiling.Proofs.Filing.Delete
import Multifiling.Proofs.Uuid

/-!
What a listing shows, fed back to the API. An item shows the identifier of a child and a type. If
the type is shown in a form that can be read again, these texts address the association that the
item came from, and no other: it can be removed by them, and a listing by that type has it again
(`shown_fedBack`). Otherwise they are refused.
-/

namespace Multifiling.Api
open Store Operation

variable {config : Config} {r : Request} {s : Store} {p : Uuid} {child type : String} {q : QName}

/-- The child and the type that an item of a listing shows. -/
def shownLink? : Json → Option (String × String)
  | .object fields =>
    match fields.lookup "association" with
    | some (.object link) =>
      match link.lookup "child_id", link.lookup "assoc_type" with
      | some (.string child), some (.string type) => some (child, type)
      | _, _ => none
    | _ => none
  | _ => none

theorem shownLink?_toJson {view : NodeView} {isPrimary : Bool}
    (h : view.association = some ⟨child, some type, isPrimary⟩) :
    shownLink? view.toJson = some (child, type) := by
  simp [shownLink?, NodeView.toJson, h, ChildLink.toJson, Json.ofTextOption, List.lookup_cons]

/-! ### Requests that feed back what is shown -/

/-- A request to remove what an item of a listing of `p` shows. -/
structure Removes (s : Store) (p : Uuid) (child type : String) (r : Request) : Prop where
  route : ∃ parent, Route.ofPath r.path = .child parent child ∧
    (s.resolve (some parent)).map (·.id) = .ok p
  method : Method.ofWord? r.method = some .delete
  type : r.parameter? "assocType" = some type

/-- A request for the secondary children of `p` that are linked by a type, from a place on. -/
structure Seeks (s : Store) (p : Uuid) (type : String) (place : Nat) (r : Request) : Prop where
  route : ∃ parent, Route.ofPath r.path = .children parent ∧
    (s.lookup (some parent)).map (·.id) = .ok p
  method : Method.ofWord? r.method = some .get
  clause : r.parameter? "where" = some (clauseFor type)
  parts : ∃ includes, readInclude (r.parameter? "include") = .ok includes
  page : ∃ limit, Page.read (r.parameter? "offset") (r.parameter? "limit") = .ok ⟨place, limit⟩

/-- What comes of a child and a type that an item of a listing of `p` shows, if the association is
of type `q` and `rest` are all the others. -/
structure FedBack (config : Config) (s : Store) (p : Uuid) (child type : String) (q : QName)
    (rest : List Association) : Prop where
  /-- The association is removed by them, and every other row stays. -/
  removed : config.registry.writes q = true → ∀ {r}, Removes s p child type r →
    serve config r s = (⟨204, none⟩, { s with associations := rest })
  /-- A type that cannot be read again is refused. -/
  kept : config.registry.writes q = false → ∀ {r}, Removes s p child type r →
    (serve config r s).1.status = 400 ∧ (serve config r s).2 = s
  /-- The listing by the type has the association at some place. -/
  listed : config.registry.writes q = true → type.toList.any isQuote = false →
    ∃ place, ∀ {r}, Seeks s p type place r → ∃ page, (serve config r s).1.page? = some page ∧
      page.items.head?.bind shownLink? = some (child, type)
  /-- A type that cannot be read again, or not between quotes, is refused. -/
  refused : config.registry.writes q = false ∨ type.toList.any isQuote = true →
    ∀ {place r}, Seeks s p type place r → (serve config r s).1.status = 400

/-- A child and a type are shown for a secondary association of `p`, which is of the known type
`q`. -/
structure Shows (config : Config) (s : Store) (p : Uuid) (child type : String) (q : QName)
    (a : Association) : Prop where
  mem : a ∈ s.associations
  secondary : a.isPrimary = false
  parent : a.parent = p
  child : a.child.text = child
  known : q ∈ config.registry.types
  ofType : a.type = q.fullForm
  type : config.registry.display q.fullForm = type

/-! ### Items -/

/-- What a page shows comes from secondary associations of the parent. -/
theorem list_page {parent : String} {n : Node} {page : Received}
    (hparent : s.lookup (some parent) = .ok n)
    (h : (list config parent r s).page? = some page) {item : Json} (hitem : item ∈ page.items) :
    ∃ a ∈ Filing.secondary s n.id none,
      shownLink? item = some (a.child.text, config.registry.display a.type) := by
  obtain ⟨_, _, _, _, views, _, -, hlist, hitems⟩ := list_of_page? h
  rw [hitems] at hitem
  obtain ⟨view, hview, rfl⟩ := List.mem_map.mp hitem
  obtain ⟨a, ha, hone⟩ := Filing.list_ok hparent hlist view hview
  exact ⟨a, ha, shownLink?_toJson (Filing.showOne_association hone)⟩

theorem shows_of_page (hs : Reached config s) {parent : String} {n : Node} {page : Received}
    (hparent : s.lookup (some parent) = .ok n)
    (h : (list config parent r s).page? = some page) {item : Json} (hitem : item ∈ page.items) :
    ∃ child type q a, shownLink? item = some (child, type) ∧
      Shows config s n.id child type q a := by
  obtain ⟨a, ha, hlink⟩ := list_page hparent h hitem
  obtain ⟨hmem, hp, -, hsecondary⟩ := Filing.mem_secondary.mp ha
  obtain ⟨q, hq, htype⟩ := hs.typed a hmem hsecondary
  exact ⟨_, _, q, a, hlink, hmem, hsecondary, hp, rfl, hq, htype, by rw [htype]⟩

/-! ### Removing -/

/-- A node is named by the text of its identifier. -/
theorem resolve_text (hids : ∀ n ∈ s.nodes, n.id.value < 2 ^ 128) (htables : s.hasTables = true)
    {id : Uuid} (h : s.HasNode id) : (s.resolve (some id.text)).map (·.id) = .ok id := by
  obtain ⟨n, hn⟩ := Option.isSome_iff_exists.mp (node?_isSome.mpr h)
  obtain ⟨hmem, hid⟩ := node?_eq_some hn
  have hparse : Uuid.parse? id.text = some id := Uuid.parse?_text (hid ▸ hids n hmem)
  rw [resolve_eq, Option.bind_some, hparse]
  simp only [htables, if_true, hn]
  rw [← hid]
  rfl

theorem serve_removes (config : Config) (hr : Removes s p child type r) :
    ∃ parent, (s.resolve (some parent)).map (·.id) = .ok p ∧
      serve config r s = answered ⟨204, none⟩
        ((Filing.delete config.registry parent child (some type)).transact s) := by
  obtain ⟨parent, hroute, hparent⟩ := hr.route
  refine ⟨parent, hparent, ?_⟩
  rw [serve_eq config s (by simp [hr.method]), respond_delete config s hroute hr.method,
    delete_answered, hr.type]

namespace Shows

variable {a : Association} (h : Shows config s p child type q a) (hconfig : config.Usable)
include h hconfig

/-- What is shown of a type is read as it, or refused. -/
theorem optionalType :
    Filing.optionalType config.registry (some type) =
      if config.registry.writes q then .ok (some q)
      else .error (.badArgument (.malformedType type)) := by
  rw [← h.type]
  exact Filing.optionalType_display hconfig.built hconfig.tidy h.known

variable (hs : s.Sound)
include hs

omit hconfig in
theorem resolve_child (hids : ∀ n ∈ s.nodes, n.id.value < 2 ^ 128) {given : Option String}
    {n : Node} (hn : s.resolve given = .ok n) : (s.resolve (some child)).map (·.id) = .ok a.child := by
  rw [← h.child]
  exact resolve_text hids (resolve_ok hn).2 (hs.constraints.ends a h.mem).2

theorem removed (hids : ∀ n ∈ s.nodes, n.id.value < 2 ^ 128) {before after : List Association}
    (hsplit : s.associations = before ++ a :: after) (hwrites : config.registry.writes q = true)
    (hr : Removes s p child type r) :
    serve config r s = (⟨204, none⟩, { s with associations := before ++ after }) := by
  obtain ⟨parent, hparent, hserve⟩ := serve_removes config hr
  obtain ⟨n, hn, -⟩ := map_eq_ok.mp hparent
  have hread : Filing.requiredType config.registry (some type) = .ok q :=
    Filing.optionalType_iff.mp ((h.optionalType hconfig).trans (if_pos hwrites))
  have haddressed : Filing.Addressed s config.registry parent child (some type) a :=
    ⟨hparent.trans (congrArg _ h.parent.symm), h.resolve_child hs hids hn,
      map_eq_ok.mpr ⟨q, hread, h.ofType.symm⟩⟩
  rw [hserve, transact,
    Filing.run_delete_link hs.keyed hs.constraints haddressed hsplit h.secondary]
  rfl

theorem kept (hids : ∀ n ∈ s.nodes, n.id.value < 2 ^ 128)
    (hwrites : config.registry.writes q = false) (hr : Removes s p child type r) :
    (serve config r s).1.status = 400 ∧ (serve config r s).2 = s := by
  obtain ⟨parent, hparent, hserve⟩ := serve_removes config hr
  obtain ⟨n, hn, -⟩ := map_eq_ok.mp hparent
  obtain ⟨c, hc, -⟩ := map_eq_ok.mp (h.resolve_child hs hids hn)
  have hread := (h.optionalType hconfig).trans (if_neg (by simp [hwrites]))
  rw [hserve, transact, Filing.run_delete, hn, hc, hread]
  exact ⟨rfl, rfl⟩

/-! ### Listing -/

theorem listed (hwrites : config.registry.writes q = true)
    (hquotes : type.toList.any isQuote = false) :
    ∃ place, ∀ {r}, Seeks s p type place r → ∃ page, (serve config r s).1.page? = some page ∧
      page.items.head?.bind shownLink? = some (child, type) := by
  have ha : a ∈ Filing.secondary s p (some q) :=
    Filing.mem_secondary.mpr ⟨h.mem, h.parent, by simpa using h.ofType, h.secondary⟩
  obtain ⟨before, after, hsplit⟩ := List.append_of_mem ha
  refine ⟨before.length, fun {r} hr => ?_⟩
  obtain ⟨parent, hroute, hparent⟩ := hr.route
  obtain ⟨n, hn, rfl⟩ := map_eq_ok.mp hparent
  obtain ⟨includes, hparts⟩ := hr.parts
  obtain ⟨full, hfull⟩ := Filing.listing_ok hs.constraints config.registry includes n.id (some q)
  have hclause := (readWhere_clauseFor type).trans (if_neg (by simp [hquotes]))
  have hread := (h.optionalType hconfig).trans (if_pos hwrites)
  have haccepted : (⟨parent, some (clauseFor type), r.parameter? "include"⟩ : Target).Accepted
      config s n (some q) includes := ⟨hn, ⟨_, hclause, hread⟩, hparts⟩
  obtain ⟨response, limit, hserve, hlimit, hpage⟩ := serve_page hconfig.defaultPageSize
    hconfig.maxPageSize haccepted hfull ⟨hroute, hr.method, hr.clause, rfl, hr.page⟩
  -- the page begins with the view of the association
  have hviews := List.forall₂_drop before.length (Filing.listing_ok_iff.mp hfull)
  rw [hsplit, List.drop_left] at hviews
  obtain ⟨view, views, hview, -, hdrop⟩ := List.forall₂_cons_left_iff.mp hviews
  refine ⟨_, by rw [hserve]; exact hpage, ?_⟩
  obtain ⟨k, rfl⟩ := Nat.exists_eq_add_of_le' hlimit
  rw [hdrop, List.take_succ_cons, List.map_cons, List.head?_cons, Option.bind_some,
    shownLink?_toJson (Filing.showOne_association hview), h.child, h.ofType, h.type]

omit hs in
theorem refused {place : Nat}
    (hunread : config.registry.writes q = false ∨ type.toList.any isQuote = true)
    (hr : Seeks s p type place r) : (serve config r s).1.status = 400 := by
  obtain ⟨parent, hroute, hparent⟩ := hr.route
  obtain ⟨n, hn, rfl⟩ := map_eq_ok.mp hparent
  obtain ⟨includes, hparts⟩ := hr.parts
  obtain ⟨limit, hpage⟩ := hr.page
  rw [serve_list config s hroute hr.method]
  simp only [list, hpage, hr.clause, hparts, readWhere_clauseFor]
  cases hquotes : type.toList.any isQuote with
  | true => rfl
  | false =>
    have hwrites := hunread.resolve_right (by simp [hquotes])
    have hread := (h.optionalType hconfig).trans (if_neg (by simp [hwrites]))
    simp only [Bool.false_eq_true, if_false, Filing.list, hn, hread, bind, Except.bind]
    rfl

end Shows

/-! ### Everything that is shown -/

/-- In a database that was only filled by making nodes and by requests under one configuration, and
whose identifiers have texts of their own, what any listing of `p` shows is for one of its
associations; fed back, it leads to that association and no other, or is refused. -/
theorem shown_fedBack {env : List (String × String)} {settings : Settings}
    (hsettings : Settings.ofEnvironment env = .ok settings)
    (hconfig : Config.ofSettings settings = .ok config) (hs : Reached config s)
    (hids : ∀ n ∈ s.nodes, n.id.value < 2 ^ 128) {parent : String} {p : Node} {page : Received}
    {item : Json} (hroute : Route.ofPath r.path = .children parent)
    (hget : Method.ofWord? r.method = some .get) (hparent : s.lookup (some parent) = .ok p)
    (hpage : (serve config r s).1.page? = some page) (hitem : item ∈ page.items) :
    ∃ child type q a before after, shownLink? item = some (child, type) ∧
      Shows config s p.id child type q a ∧ s.associations = before ++ a :: after ∧
      FedBack config s p.id child type q (before ++ after) := by
  rw [serve_list config s hroute hget] at hpage
  obtain ⟨child, type, q, a, hlink, h⟩ := shows_of_page hs hparent hpage hitem
  obtain ⟨before, after, hsplit⟩ := List.append_of_mem h.mem
  have husable := ofSettings_usable (Settings.ofEnvironment_usable hsettings) hconfig
  exact ⟨child, type, q, a, before, after, hlink, h, hsplit,
    fun hw _ hr => h.removed husable hs.sound hids hsplit hw hr,
    fun hw _ hr => h.kept husable hs.sound hids hw hr,
    h.listed husable hs.sound, fun hu _ _ hr => h.refused husable hu hr⟩

/-! ### Two configurations -/

deriving instance DecidableEq for Registry, Config

/-- An environment with an association type of its own, in a namespace with these prefixes. -/
def linkEnvironment (namespaces : String) : List (String × String) :=
  [("DATABASE_URL", "sqlite://"), ("NAMESPACES", namespaces), ("ASSOCIATION_TYPES", "ex:link")]

def linkSettings (namespaces : Entries String String) : Settings where
  databaseUrl := "sqlite://"
  poolSize := 5
  maxOverflow := 10
  logLevel := "INFO"
  corsOrigins := ["http://localhost:5173"]
  namespaces := namespaces
  associationTypes := ["ex:link"]
  defaultPageSize := 100
  maxPageSize := 1000

def linkConfig (namespaces : Entries String String) : Config where
  registry := {
    uriByPrefix := ContentModel.namespaces ++ namespaces
    prefixByUri := Registry.firstPrefixes (ContentModel.namespaces ++ namespaces)
    types := [ContentModel.contains, ⟨ContentModel.systemUri, "children", by decide⟩,
      ⟨ContentModel.contentUri, "subcategories", by decide⟩,
      ⟨ContentModel.renditionUri, "rendition", by decide⟩, ⟨"http://e", "link", by decide⟩] }
  defaultPageSize := 100
  maxPageSize := 1000

/-- A root, a folder and a document. -/
def folderAndDocument : Store :=
  Session.workUnit
    [.createNode { name := some "Home", type := ContentModel.folder, isRoot := true } none,
      .createNode { name := some "Inbox", type := ContentModel.folder } (some (.ofNode 1)),
      .createNode { name := some "a.txt" } (some (.ofNode 1))] {}

def folderPath : String := "nodes/00000002-0000-7000-8000-000000000002/secondary-children"

def documentText : String := "00000002-0000-7000-8000-000000000003"

/-- Files the document under the folder as well. -/
def linkDocument : Request where
  method := "POST"
  path := folderPath
  body := some ("\x7b\"child_id\": \"" ++ documentText ++ "\", \"assoc_type\": \"ex:link\"\x7d")

def listFolder : Request where
  method := "GET"
  path := folderPath

/-- Takes the document away again, by the type that is shown. -/
def unlinkDocument (type : String) : Request where
  method := "DELETE"
  path := folderPath ++ "/" ++ documentText
  query := [("assocType", type)]

/-- The answer to filing the document, and the rows after it. -/
def linking (namespaces : Entries String String) : Response × Store :=
  serve (linkConfig namespaces) linkDocument folderAndDocument

theorem linking_reached (namespaces : Entries String String) :
    Reached (linkConfig namespaces) (linking namespaces).2 := by
  have h : Reached (linkConfig namespaces) folderAndDocument := .work .empty (by decide)
  exact h.request linkDocument

/-- The folder's children by a type as it is shown. -/
def listLinked (type : String) : Request where
  method := "GET"
  path := folderPath
  query := [("where", clauseFor type)]

/-- A namespace with one prefix, which may be written. -/
def plainPrefix : Entries String String := [("ex", "http://e")]

theorem shown_fedBack_plainPrefix :
    ∃ page item, (serve (linkConfig plainPrefix) listFolder (linking plainPrefix).2).1.page? =
        some page ∧ item ∈ page.items ∧ shownLink? item = some (documentText, "ex:link") ∧
      (linking plainPrefix).2.associations.length = 3 ∧
      (serve (linkConfig plainPrefix) (unlinkDocument "ex:link") (linking plainPrefix).2).1.status =
        204 ∧
      (serve (linkConfig plainPrefix) (unlinkDocument "ex:link")
        (linking plainPrefix).2).2.associations.length = 2 := by
  -- all that has to be computed
  obtain ⟨⟨hsettings, hconfig⟩, hshown, hparent, hids, hresolved, hlength⟩ :
      (Settings.ofEnvironment (linkEnvironment "ex=http://e") = .ok (linkSettings plainPrefix) ∧
        Config.ofSettings (linkSettings plainPrefix) = .ok (linkConfig plainPrefix)) ∧
      (serve (linkConfig plainPrefix) listFolder (linking plainPrefix).2).1.page?.map
        (·.items.map shownLink?) = some [some (documentText, "ex:link")] ∧
      ((linking plainPrefix).2.lookup (some (Uuid.ofNode 2).text)).map (·.id) = .ok (.ofNode 2) ∧
      (∀ n ∈ (linking plainPrefix).2.nodes, n.id.value < 2 ^ 128) ∧
      ((linking plainPrefix).2.resolve (some (Uuid.ofNode 2).text)).map (·.id) = .ok (.ofNode 2) ∧
      (linking plainPrefix).2.associations.length = 3 := by decide +kernel
  obtain ⟨page, hpage, hitems⟩ := Option.map_eq_some_iff.mp hshown
  obtain ⟨item, rest, hpageItems, hlink, -⟩ := List.map_eq_cons_iff.mp hitems
  have hitem : item ∈ page.items := by simp [hpageItems]
  obtain ⟨folder, hfolder, hid⟩ := map_eq_ok.mp hparent
  obtain ⟨child, type, q, a, before, after, hshows, h, hsplit, hfedBack⟩ := shown_fedBack hsettings
    hconfig (linking_reached plainPrefix) hids (by decide +kernel) (by decide) hfolder hpage hitem
  cases hlink.symm.trans hshows
  rw [hid] at hfedBack
  have hwrites : ∀ q ∈ (linkConfig plainPrefix).registry.types,
      (linkConfig plainPrefix).registry.display q.fullForm = "ex:link" →
        (linkConfig plainPrefix).registry.writes q = true := by decide +kernel
  have hremoves : Removes (linking plainPrefix).2 (.ofNode 2) documentText "ex:link"
      (unlinkDocument "ex:link") :=
    ⟨⟨(Uuid.ofNode 2).text, by decide +kernel, hresolved⟩, by decide, by decide⟩
  have hremoved := hfedBack.removed (hwrites q h.known h.type) hremoves
  refine ⟨page, item, hpage, hitem, hlink, hlength, by rw [hremoved], ?_⟩
  rw [hremoved]
  rw [hsplit] at hlength
  simp only [List.length_append, List.length_cons] at hlength ⊢
  omega

/-- The same namespace with a prefix before that one, which may not be written: the document is
shown with a type that can neither be removed nor listed by. -/
def oddPrefix : Entries String String := [("1x", "http://e"), ("ex", "http://e")]

theorem shown_notFedBack_oddPrefix :
    Reached (linkConfig oddPrefix) (linking oddPrefix).2 ∧
      Settings.ofEnvironment (linkEnvironment "1x=http://e,ex=http://e") =
        .ok (linkSettings oddPrefix) ∧
      Config.ofSettings (linkSettings oddPrefix) = .ok (linkConfig oddPrefix) ∧
      (serve (linkConfig oddPrefix) listFolder (linking oddPrefix).2).1.page?.map
        (·.items.map shownLink?) = some [some (documentText, "1x:link")] ∧
      (serve (linkConfig oddPrefix) (listLinked "1x:link") (linking oddPrefix).2).1.status = 400 ∧
      (serve (linkConfig oddPrefix) (unlinkDocument "1x:link") (linking oddPrefix).2).1.status =
        400 :=
  ⟨linking_reached oddPrefix, by decide +kernel⟩

end Multifiling.Api
