import Multifiling.Api
import Multifiling.Proofs.ChildLink
import Multifiling.Proofs.Session.History

/-!
Requests as units of work. A request is handled in a session on the committed rows, which is
committed if the request is answered with success and rolled back otherwise (`transact_eq`). So a
request that is refused leaves no trace, however much of it was already done in the session, and one
that succeeds leaves the rows of its session.
-/

namespace Multifiling

/-- The rows of a store, without what the database knows beside them. -/
structure Rows where
  users : List User
  nodes : List Node
  associations : List Association

def Store.rows (s : Store) : Rows := ⟨s.users, s.nodes, s.associations⟩

theorem Store.restore_rows (s earlier : Store) : (s.restore earlier).rows = earlier.rows := rfl

variable {s t : Store}

namespace Api
open Store

/-- Whether an answer tells of success. -/
def Response.succeeds (response : Response) : Bool :=
  200 ≤ response.status && response.status < 300

/-- A failure is refused with its status, or it crashes. -/
theorem ofFailure_cases (e : Failure) :
    Response.ofFailure e = .crash ∨ ∃ detail, Response.ofFailure e = .refuse 400 detail ∨
      Response.ofFailure e = .refuse 404 detail ∨ Response.ofFailure e = .refuse 409 detail := by
  cases e with
  | nodeNotFound | associationNotFound => exact .inr ⟨_, .inr (.inl rfl)⟩
  | linkConflict => exact .inr ⟨_, .inr (.inr rfl)⟩
  | badArgument argument =>
    cases argument with
    | brokenType => exact .inl rfl
    | _ => exact .inr ⟨_, .inl rfl⟩
  | _ => exact .inl rfl

theorem ofFailure_succeeds (e : Failure) : (Response.ofFailure e).succeeds = false := by
  rcases ofFailure_cases e with h | ⟨_, h | h | h⟩ <;>
  · rw [h]
    rfl

/-- The answer to a body that cannot be read tells of no success. -/
theorem readBody_error {body : Option String} {response : Response}
    (h : readBody body = .error response) : response.succeeds = false := by
  unfold readBody at h
  simp only at h
  split at h
  · cases h; rfl
  · split at h
    · cases h; rfl
    · split at h
      · cases h; rfl
      · cases h; rfl
      · split at h
        · cases h
        · split at h <;> cases h <;> rfl

/-! ### Handling a request -/

variable {config : Config} {r : Request}

/-- All the ways in which a request is handled. -/
inductive Handled (config : Config) (r : Request) : (Store → Response × Store) → Prop where
  | fixed (response : Response) : Handled config r fun s => (response, s)
  | checked : Handled config r fun s => (health s, s)
  | listed {parent : String} (hroute : Route.ofPath r.path = .children parent)
    (hget : Method.ofWord? r.method = some .get) :
    Handled config r fun s => (list config parent r s, s)
  | created {parent : String} (hroute : Route.ofPath r.path = .children parent)
    (hpost : Method.ofWord? r.method = some .post) : Handled config r (create config parent r)
  | deleted {parent child : String} (hroute : Route.ofPath r.path = .child parent child)
    (hdelete : Method.ofWord? r.method = some .delete) :
    Handled config r (delete config parent child r)

theorem respond_handled (config : Config) (r : Request) :
    Handled config r (respond config r) := by
  unfold respond
  cases hroute : Route.ofPath r.path with
  | unknown | slashed => exact .fixed _
  | health =>
    cases Method.ofWord? r.method with
    | none => exact .fixed _
    | some m =>
      cases m with
      | get => exact .checked
      | head | post | delete => exact .fixed _
  | children parent =>
    cases hmethod : Method.ofWord? r.method with
    | none => exact .fixed _
    | some m =>
      cases m with
      | get => exact .listed hroute hmethod
      | post => exact .created hroute hmethod
      | head | delete => exact .fixed _
  | child parent child =>
    cases hmethod : Method.ofWord? r.method with
    | none => exact .fixed _
    | some m =>
      cases m with
      | delete => exact .deleted hroute hmethod
      | get | head | post => exact .fixed _

/-- Only two requests are handled in a way that can change anything. -/
theorem respond_cases (config : Config) (r : Request) (s : Store) :
    (∃ parent, Route.ofPath r.path = .children parent ∧ Method.ofWord? r.method = some .post ∧
      respond config r s = create config parent r s) ∨
    (∃ parent child, Route.ofPath r.path = .child parent child ∧
      Method.ofWord? r.method = some .delete ∧
      respond config r s = delete config parent child r s) ∨
    ∃ response, respond config r s = (response, s) := by
  have hhandled := respond_handled config r
  generalize respond config r = handle at hhandled
  cases hhandled with
  | fixed | checked | listed => exact .inr (.inr ⟨_, rfl⟩)
  | created hroute hpost => exact .inl ⟨_, hroute, hpost, rfl⟩
  | deleted hroute hdelete => exact .inr (.inl ⟨_, _, hroute, hdelete, rfl⟩)

theorem respond_create (config : Config) (s : Store) {parent : String}
    (hroute : Route.ofPath r.path = .children parent)
    (hpost : Method.ofWord? r.method = some .post) :
    respond config r s = create config parent r s := by
  rw [respond, hroute, hpost]

theorem respond_delete (config : Config) (s : Store) {parent child : String}
    (hroute : Route.ofPath r.path = .child parent child)
    (hdelete : Method.ofWord? r.method = some .delete) :
    respond config r s = delete config parent child r s := by
  rw [respond, hroute, hdelete]

theorem serve_store (config : Config) (r : Request) (s : Store) :
    (serve config r s).2 = (respond config r s).2 := rfl

theorem serve_eq (config : Config) (s : Store) (h : Method.ofWord? r.method ≠ some .head) :
    serve config r s = respond config r s := by
  simp only [serve, if_neg h]

/-- Leaving out a body does not change whether an answer tells of success. -/
theorem serve_succeeds (config : Config) (r : Request) (s : Store) :
    (serve config r s).1.succeeds = (respond config r s).1.succeeds := by
  simp only [serve]
  split <;> rfl

/-- The answer to a request that was handled as a unit of work. -/
def answered {α : Type} (success : Response) (done : Except Failure α × Store) :
    Response × Store :=
  (match done.1 with
    | .error e => .ofFailure e
    | .ok _ => success, done.2)

theorem answered_store {α : Type} (success : Response) (done : Except Failure α × Store) :
    (answered success done).2 = done.2 := rfl

/-- Links that were made are those of the body, and the answer with them can be written. -/
theorem made_echo {registry : Registry} {parent : String} {body : LinkBody SentText}
    {made : List (ChildLink SentText)}
    (h : (Filing.create registry parent body.links).run s = .ok made t) :
    made = body.links ∧ body.echo?.isSome = true := by
  obtain ⟨-, types, -, htypes, -, hmade, -⟩ := Filing.create_ok h
  refine ⟨hmade, LinkBody.isSome_echo? fun link hlink => ChildLink.isSome_written? ?_⟩
  obtain ⟨q, -, hq⟩ := forall₂_of_mem_right (mapM_ok_iff.mp htypes).flip hlink
  exact (Filing.requiredType_ok_iff.mp hq).isSome_string?

theorem create_answered (config : Config) (parent : String) (r : Request) (s : Store) :
    create config parent r s = match readBody r.body with
      | .error response => (response, s)
      | .ok body => answered ⟨201, body.echo?⟩
          ((Filing.create config.registry parent body.links).transact s) := by
  rw [create]
  cases readBody r.body with
  | error response => rfl
  | ok body =>
    simp only [Operation.transact, answered]
    cases hrun : (Filing.create config.registry parent body.links).run s with
    | error e t => rfl
    | ok made t =>
      obtain ⟨rfl, hecho⟩ := made_echo hrun
      obtain ⟨json, hjson⟩ := Option.isSome_iff_exists.mp hecho
      rw [hjson]
      rw [LinkBody.echo?] at hjson
      simp only [hjson]

/-- A request to file children, handled in a session. -/
theorem create_eq (config : Config) (parent : String) (r : Request) (s : Store) :
    create config parent r s = match readBody r.body with
      | .error response => (response, s)
      | .ok body =>
        let outcome := (⟨s, s⟩ : Session).run (Filing.create config.registry parent body.links)
        match outcome.result with
        | .error e => (.ofFailure e, outcome.session.rollback.current)
        | .ok _ => (⟨201, body.echo?⟩, outcome.session.commit.current) := by
  rw [create_answered]
  cases readBody r.body with
  | error response => rfl
  | ok body =>
    simp only [Operation.transact_eq, answered]
    cases ((⟨s, s⟩ : Session).run (Filing.create config.registry parent body.links)).result <;> rfl

/-- A request to remove a node from under another, handled in a session. -/
theorem delete_eq (config : Config) (parent child : String) (r : Request) (s : Store) :
    delete config parent child r s =
      let outcome := (⟨s, s⟩ : Session).run
        (Filing.delete config.registry parent child (r.parameter? "assocType"))
      match outcome.result with
      | .error e => (.ofFailure e, outcome.session.rollback.current)
      | .ok _ => (⟨204, none⟩, outcome.session.commit.current) := by
  simp only [delete, Operation.transact_eq]
  cases ((⟨s, s⟩ : Session).run
    (Filing.delete config.registry parent child (r.parameter? "assocType"))).result <;> rfl

/-! ### What requests change -/

theorem delete_answered (config : Config) (parent child : String) (r : Request) (s : Store) :
    delete config parent child r s = answered ⟨204, none⟩
      ((Filing.delete config.registry parent child (r.parameter? "assocType")).transact s) := by
  rw [delete]
  rcases (Filing.delete config.registry parent child (r.parameter? "assocType")).transact s with
    ⟨_ | _, _⟩ <;> rfl

theorem transact_changes {α : Type} {x : Operation α} {kinds : List Kind}
    (h : Changes kinds s (x.after s)) (hk : .count ∈ kinds) :
    Changes kinds s (x.transact s).2 := by
  rw [Operation.after] at h
  rw [Operation.transact]
  cases hx : x.run s with
  | ok a t => rwa [hx] at h
  | error e t =>
    rw [hx] at h
    exact .single (.count _ h.issued_le) hk

/-- A request only adds and removes secondary associations. -/
theorem serve_changes (config : Config) (r : Request) (s : Store) :
    Changes Kind.filing s (serve config r s).2 := by
  rw [serve_store]
  rcases respond_cases config r s with ⟨parent, -, -, hr⟩ | ⟨parent, child, -, -, hr⟩ | ⟨_, hr⟩
  · rw [hr, create_answered]
    cases readBody r.body with
    | error response => exact .refl s
    | ok body =>
      simp only [answered_store]
      exact transact_changes ((Filing.create_after ..).mono (by decide)) (by decide)
  · rw [hr, delete_answered, answered_store]
    exact transact_changes ((Filing.delete_after ..).mono (by decide)) (by decide)
  · rw [hr]
    exact .refl s

/-! ### All or nothing -/

/-- What a request may do to the committed rows `s`. -/
structure AllOrNothing (config : Config) (r : Request) (s : Store) : Prop where
  /-- A request that is not answered with success leaves the rows as they were. -/
  refused : (serve config r s).1.succeeds = false → (serve config r s).2.rows = s.rows
  /-- So does one that only reads. -/
  read : Method.ofWord? r.method = some .get → (serve config r s).2.rows = s.rows
  /-- A request to file children that succeeds leaves the rows of its session. -/
  created : ∀ {parent}, Route.ofPath r.path = .children parent →
    Method.ofWord? r.method = some .post → (serve config r s).1.succeeds = true →
    ∃ body, readBody r.body = .ok body ∧
      let outcome := (⟨s, s⟩ : Session).run (Filing.create config.registry parent body.links)
      outcome.result.isOk ∧ (serve config r s).2.rows = outcome.session.current.rows
  /-- So does one to remove a node from under another. -/
  deleted : ∀ {parent child}, Route.ofPath r.path = .child parent child →
    Method.ofWord? r.method = some .delete → (serve config r s).1.succeeds = true →
    let outcome := (⟨s, s⟩ : Session).run
      (Filing.delete config.registry parent child (r.parameter? "assocType"))
    outcome.result.isOk ∧ (serve config r s).2.rows = outcome.session.current.rows
  /-- If one link of several fails, then those before it are in the session, and are undone. -/
  undone : ∀ {parent body p types before link type after made t e u},
    Route.ofPath r.path = .children parent → Method.ofWord? r.method = some .post →
    readBody r.body = .ok body → s.resolve (some parent) = .ok p →
    (body.links.mapM fun link => Filing.requiredType config.registry link.assocType) = .ok types →
    body.links.zip types = before ++ (link, type) :: after →
    (Filing.createEach p before).run s = .ok made t →
    (Filing.createOne p link type).run t = .error e u →
    let outcome := (⟨s, s⟩ : Session).run (Filing.create config.registry parent body.links)
    outcome.session.current.associations.length = s.associations.length + before.length ∧
      (serve config r s).1 = .ofFailure e ∧ (serve config r s).1.succeeds = false ∧
      (serve config r s).2.rows = s.rows

/-! ### Requests to file children -/

variable {parent child : String}

theorem create_refused (h : (create config parent r s).1.succeeds = false) :
    (create config parent r s).2.rows = s.rows := by
  rw [create_eq] at h ⊢
  cases hb : readBody r.body with
  | error response => rfl
  | ok body =>
    rw [hb] at h
    simp only at h ⊢
    cases hr : ((⟨s, s⟩ : Session).run
      (Filing.create config.registry parent body.links)).result with
    | ok made => rw [hr] at h; cases h
    | error e =>
      simp only [Session.rollback_current, Session.run_committed, restore_rows]

theorem create_succeeds (h : (create config parent r s).1.succeeds = true) :
    ∃ body, readBody r.body = .ok body ∧
      let outcome := (⟨s, s⟩ : Session).run (Filing.create config.registry parent body.links)
      outcome.result.isOk ∧ (create config parent r s).2.rows = outcome.session.current.rows := by
  rw [create_eq] at h ⊢
  cases hb : readBody r.body with
  | error response =>
    rw [hb] at h
    rw [readBody_error hb] at h
    cases h
  | ok body =>
    rw [hb] at h
    refine ⟨body, rfl, ?_⟩
    simp only at h ⊢
    cases hr : ((⟨s, s⟩ : Session).run
      (Filing.create config.registry parent body.links)).result with
    | ok made => simp only [Session.commit_current, Except.isOk, Except.toBool, and_self]
    | error e =>
      rw [hr, ofFailure_succeeds] at h
      cases h

/-! ### Requests to remove a node from under another -/

theorem delete_refused (h : (delete config parent child r s).1.succeeds = false) :
    (delete config parent child r s).2.rows = s.rows := by
  rw [delete_eq] at h ⊢
  simp only at h ⊢
  cases hr : ((⟨s, s⟩ : Session).run
    (Filing.delete config.registry parent child (r.parameter? "assocType"))).result with
  | ok made => rw [hr] at h; cases h
  | error e =>
    simp only [Session.rollback_current, Session.run_committed, restore_rows]

theorem delete_succeeds (h : (delete config parent child r s).1.succeeds = true) :
    let outcome := (⟨s, s⟩ : Session).run
      (Filing.delete config.registry parent child (r.parameter? "assocType"))
    outcome.result.isOk ∧
      (delete config parent child r s).2.rows = outcome.session.current.rows := by
  rw [delete_eq] at h ⊢
  simp only at h ⊢
  cases hr : ((⟨s, s⟩ : Session).run
    (Filing.delete config.registry parent child (r.parameter? "assocType"))).result with
  | ok made => simp only [Session.commit_current, Except.isOk, Except.toBool, and_self]
  | error e =>
    rw [hr, ofFailure_succeeds] at h
    cases h

/-- The links before the one that fails are in the session. -/
theorem create_undone (config : Config) {body : LinkBody SentText} {p : Node} {types : List QName}
    {before after : List (ChildLink SentText × QName)} {link : ChildLink SentText} {type : QName}
    {made : List (ChildLink SentText)} {e : Failure} {u : Store}
    (hb : readBody r.body = .ok body) (hp : s.resolve (some parent) = .ok p)
    (ht : (body.links.mapM fun link => Filing.requiredType config.registry link.assocType) =
      .ok types)
    (hsplit : body.links.zip types = before ++ (link, type) :: after)
    (hbefore : (Filing.createEach p before).run s = .ok made t)
    (hfails : (Filing.createOne p link type).run t = .error e u) :
    let outcome := (⟨s, s⟩ : Session).run (Filing.create config.registry parent body.links)
    outcome.session.current.associations.length = s.associations.length + before.length ∧
      create config parent r s = (.ofFailure e, outcome.session.rollback.current) := by
  have hnode := hasNode_of_mem (resolve_ok hp).1
  rcases Filing.createEach_cases before hnode with ⟨e', t', h, -⟩ | ⟨t', h, hc, hadded⟩
  · rw [hbefore] at h
    cases h
  rw [hbefore] at h
  cases h
  rcases Filing.createOne_cases link type (hc.hasNode (by decide) hnode) with
    ⟨e', h, he⟩ | ⟨a, h, -⟩
  · rw [hfails] at h
    cases h
    -- what follows the link that fails is not tried any more
    have hrun : (Filing.create config.registry parent body.links).run s = .error e t := by
      rw [Filing.run_create, hp]
      simp only [ht, hsplit, Filing.run_createEach_append, hbefore, Filing.run_createEach_cons,
        hfails]
    have hsession : (⟨s, s⟩ : Session).run (Filing.create config.registry parent body.links) =
        ⟨.error e, false, ⟨s, t⟩⟩ := Session.run_error hrun he
    rw [create_eq, hb]
    simp only [hsession, and_true]
    exact hadded.length_eq
  · rw [hfails] at h
    cases h

/-- Whatever the request and the committed rows are, the request is all or nothing. -/
theorem serve_allOrNothing (config : Config) (r : Request) (s : Store) :
    AllOrNothing config r s where
  refused h := by
    rcases respond_cases config r s with ⟨parent, -, -, hr⟩ | ⟨parent, child, -, -, hr⟩ | ⟨_, hr⟩
    · rw [serve_succeeds, hr] at h
      rw [serve_store, hr]
      exact create_refused h
    · rw [serve_succeeds, hr] at h
      rw [serve_store, hr]
      exact delete_refused h
    · rw [serve_store, hr]
  read hget := by
    rcases respond_cases config r s with ⟨_, -, hpost, -⟩ | ⟨_, _, -, hdelete, -⟩ | ⟨_, hr⟩
    · rw [hget] at hpost; cases hpost
    · rw [hget] at hdelete; cases hdelete
    · rw [serve_store, hr]
  created hroute hpost h := by
    have hr := respond_create config s hroute hpost
    rw [serve_succeeds, hr] at h
    rw [serve_store, hr]
    exact create_succeeds h
  deleted hroute hdelete h := by
    have hr := respond_delete config s hroute hdelete
    rw [serve_succeeds, hr] at h
    rw [serve_store, hr]
    exact delete_succeeds h
  undone hroute hpost hb hp ht hsplit hbefore hfails := by
    have hr := respond_create config s hroute hpost
    obtain ⟨hlen, hc⟩ := create_undone config hb hp ht hsplit hbefore hfails
    rw [serve_eq config s (by simp [hpost]), hr, hc]
    exact ⟨hlen, rfl, ofFailure_succeeds _, by
      simp only [Session.rollback_current, Session.run_committed, restore_rows]⟩

/-- The built-in prefixes and type, and pages of any size. -/
def plainConfig : Config := ⟨⟨ContentModel.namespaces, [], [ContentModel.contains]⟩, 50, 200⟩

/-- Two links to a document, of which the second has no child. -/
def halfWrong : Request where
  method := "POST"
  path := "nodes/00000002-0000-7000-8000-000000000002/secondary-children"
  body := some ("[\x7b\"child_id\": \"00000002-0000-7000-8000-000000000001\", " ++
    "\"assoc_type\": \"cm:contains\"\x7d, " ++
    "\x7b\"child_id\": \"x\", \"assoc_type\": \"cm:contains\"\x7d]")

example :
    let (response, s) := serve plainConfig halfWrong folderWithDocument
    response.status = 404 ∧ s.associations = folderWithDocument.associations := by
  decide +kernel

end Api

end Multifiling
