import Multifiling.Proofs.Api.Walk
import Multifiling.Proofs.Filing.Frame

/-!
Parents do not interfere. A request reads and changes only what its own parent has, beside the tree,
which no request changes. So requests to different parents can be answered in either order
(`serve_isolated`).
-/

namespace Multifiling.Api
open Store Operation

variable {config : Config} {r r' : Request} {s t : Store} {parent child : String} {id : Uuid}

/-- The parent that a request is addressed to; a listing also knows the root by its own text. -/
def Request.parent? (r : Request) (s : Store) : Option Uuid :=
  match Route.ofPath r.path, Method.ofWord? r.method with
  | .children parent, some .get => (s.lookup (some parent)).toOption.map (·.id)
  | .children parent, some .post => (s.resolve (some parent)).toOption.map (·.id)
  | .child parent _, some .delete => (s.resolve (some parent)).toOption.map (·.id)
  | _, _ => none

theorem parent?_sameTree (h : SameTree s t) (r : Request) : r.parent? t = r.parent? s := by
  simp only [Request.parent?, h.lookup, h.resolve]

theorem parent?_create (s : Store) (hroute : Route.ofPath r.path = .children parent)
    (hpost : Method.ofWord? r.method = some .post) :
    r.parent? s = (s.resolve (some parent)).toOption.map (·.id) := by
  rw [Request.parent?, hroute, hpost]

theorem parent?_delete (s : Store) (hroute : Route.ofPath r.path = .child parent child)
    (hdelete : Method.ofWord? r.method = some .delete) :
    r.parent? s = (s.resolve (some parent)).toOption.map (·.id) := by
  rw [Request.parent?, hroute, hdelete]

theorem parent?_list (s : Store) (hroute : Route.ofPath r.path = .children parent)
    (hget : Method.ofWord? r.method = some .get) :
    r.parent? s = (s.lookup (some parent)).toOption.map (·.id) := by
  rw [Request.parent?, hroute, hget]

/-! ### Requests that write -/

/-- A request leaves the associations of other parents as they are. -/
theorem serve_children (config : Config) (hs : s.Sound) (h : r.parent? s ≠ some id) :
    (serve config r s).2.children id none = s.children id none := by
  rw [serve_store]
  rcases respond_cases config r s with ⟨parent, hroute, hpost, hr⟩ |
    ⟨parent, child, hroute, hdelete, hr⟩ | ⟨response, hr⟩
  · rw [hr, create_answered]
    cases readBody r.body with
    | error response => rfl
    | ok body =>
      simp only [answered_store]
      refine transact_children (Filing.create_children fun n hn hid => h ?_)
      rw [parent?_create s hroute hpost, hn]
      exact congrArg some hid
  · rw [hr, delete_answered, answered_store]
    refine transact_children (Filing.delete_children hs fun n hn hid => h ?_)
    rw [parent?_delete s hroute hdelete, hn]
    exact congrArg some hid
  · rw [hr]

/-! ### Stores that look alike to a request -/

/-- A request finds the same in two stores: the tree, and the associations of its parent. -/
structure Looks (r : Request) (s t : Store) : Prop where
  tree : SameTree s t
  children : ∀ id, r.parent? s = some id → t.children id none = s.children id none

theorem Looks.edges (h : Looks r s t) {id : Uuid} (hid : r.parent? s = some id) :
    t.edges id = s.edges id :=
  edges_congr (h.children id hid)

/-- The edges of the parent, if the request is addressed to what a text names. -/
theorem Looks.edges_of_ok (h : Looks r s t) {named : Except Failure Node}
    (hparent : r.parent? s = named.toOption.map (·.id)) :
    ∀ n, named = .ok n → t.edges n.id = s.edges n.id := by
  rintro n rfl
  exact h.edges hparent

theorem answered_alike {α : Type} {x : Operation α} (success : Response)
    {named : Except Failure Node} (hparent : r.parent? s = named.toOption.map (·.id))
    (h : (x.transact t).1 = (x.transact s).1 ∧
      ∀ n, named = .ok n → (x.transact t).2.edges n.id = (x.transact s).2.edges n.id) :
    (answered success (x.transact t)).1 = (answered success (x.transact s)).1 ∧
      ∀ id, r.parent? s = some id → (answered success (x.transact t)).2.edges id =
        (answered success (x.transact s)).2.edges id := by
  refine ⟨by rw [answered, answered, h.1], fun id hid => ?_⟩
  rw [hparent] at hid
  cases named with
  | error e => cases hid
  | ok n =>
    cases hid
    exact h.2 n rfl

/-- A request is answered by what it finds, and does the same to its parent. -/
theorem respond_alike (config : Config) (hs : s.Sound) (ht : t.Sound) (h : Looks r s t) :
    (respond config r t).1 = (respond config r s).1 ∧
      ∀ id, r.parent? s = some id →
        (respond config r t).2.edges id = (respond config r s).2.edges id := by
  have hedges : ∀ id, r.parent? s = some id → t.edges id = s.edges id := fun _ hid => h.edges hid
  have hhandled := respond_handled config r
  generalize respond config r = handle at hhandled
  cases hhandled with
  | fixed response => exact ⟨rfl, hedges⟩
  | checked => exact ⟨by simp only [health, h.tree.hasTables], hedges⟩
  | @listed parent hroute hget =>
    refine ⟨?_, hedges⟩
    have hlist (assocType : Option String) (includes : List Include) (offset limit : Int) :
        Filing.list t config.registry parent assocType includes offset limit =
          Filing.list s config.registry parent assocType includes offset limit := by
      refine Filing.list_alike h.tree fun n hn => h.children n.id ?_
      rw [parent?_list s hroute hget, hn]
      rfl
    simp only [list, hlist]
  | created hroute hpost =>
    simp only [create_answered]
    cases readBody r.body with
    | error response => exact ⟨rfl, hedges⟩
    | ok body =>
      have hparent := parent?_create s hroute hpost
      exact answered_alike _ hparent (Filing.create_transact h.tree (h.edges_of_ok hparent))
  | deleted hroute hdelete =>
    simp only [delete_answered]
    have hparent := parent?_delete s hroute hdelete
    exact answered_alike _ hparent
      (Filing.delete_transact hs ht h.tree (h.edges_of_ok hparent))

theorem serve_alike (config : Config) (hs : s.Sound) (ht : t.Sound) (h : Looks r s t) :
    (serve config r t).1 = (serve config r s).1 ∧
      ∀ id, r.parent? s = some id →
        (serve config r t).2.edges id = (serve config r s).2.edges id := by
  obtain ⟨hresponse, hedges⟩ := respond_alike config hs ht h
  refine ⟨by simp only [serve, hresponse], fun id hid => ?_⟩
  rw [serve_store, serve_store]
  exact hedges id hid

/-! ### Two requests -/

/-- A request to one parent looks the same to a request to another before and after. -/
theorem looks_after (config : Config) (hs : s.Sound)
    (h : ∀ id, r.parent? s = some id → r'.parent? s ≠ some id) :
    Looks r s (serve config r' s).2 where
  tree := (serve_changes config r' s).sameTree (List.Subset.refl _)
  children id hid := serve_children config hs (h id hid)

/-- Requests that are not addressed to the same parent are answered alike in either order, and then
leave every parent with the same edges in the same order. So what a listing shows is the same before
and after any request to another parent. -/
theorem serve_isolated (config : Config) (r r' : Request) {s : Store} (hs : s.Sound)
    (h : ∀ id, r.parent? s = some id → r'.parent? s ≠ some id) :
    (serve config r (serve config r' s).2).1 = (serve config r s).1 ∧
      (serve config r' (serve config r s).2).1 = (serve config r' s).1 ∧
      ∀ parent, (serve config r' (serve config r s).2).2.edges parent =
        (serve config r (serve config r' s).2).2.edges parent := by
  have h' (id : Uuid) (hid : r'.parent? s = some id) : r.parent? s ≠ some id :=
    fun heq => h id heq hid
  have hchanges := serve_changes config r s
  have hchanges' := serve_changes config r' s
  obtain ⟨hresponse, hedges⟩ :=
    serve_alike config hs (hchanges'.sound hs) (looks_after config hs h)
  obtain ⟨hresponse', hedges'⟩ :=
    serve_alike config hs (hchanges.sound hs) (looks_after config hs h')
  refine ⟨hresponse, hresponse', fun parent => ?_⟩
  have hparent := parent?_sameTree (hchanges.sameTree (List.Subset.refl _)) r'
  have hparent' := parent?_sameTree (hchanges'.sameTree (List.Subset.refl _)) r
  -- the second request leaves the parent of the first alone, and the other way round
  have hkept {id : Uuid} (hid : r'.parent? s ≠ some id) :
      (serve config r' (serve config r s).2).2.edges id = (serve config r s).2.edges id :=
    edges_congr (serve_children config (hchanges.sound hs) (hparent.trans_ne hid))
  have hkept' {id : Uuid} (hid : r.parent? s ≠ some id) :
      (serve config r (serve config r' s).2).2.edges id = (serve config r' s).2.edges id :=
    edges_congr (serve_children config (hchanges'.sound hs) (hparent'.trans_ne hid))
  by_cases hr : r.parent? s = some parent
  · rw [hkept (h parent hr), hedges parent hr]
  · rw [hkept' hr]
    by_cases hr' : r'.parent? s = some parent
    · exact hedges' parent hr'
    · rw [hkept hr', edges_congr (serve_children config hs hr),
        edges_congr (serve_children config hs hr')]

/-- Takes the first document away from under the root. -/
def takeFromRoot : Request where
  method := "DELETE"
  path := "nodes/00000002-0000-7000-8000-000000000001/secondary-children/" ++
    "00000002-0000-7000-8000-000000000003"

/-- Files the root under the folder. -/
def fileRoot : Request where
  method := "POST"
  path := "nodes/00000002-0000-7000-8000-000000000002/secondary-children"
  body := some ("\x7b\"child_id\": \"00000002-0000-7000-8000-000000000001\", " ++
    "\"assoc_type\": \"cm:contains\"\x7d")

theorem takeFromRoot_fileRoot_isolated :
    (serve plainConfig takeFromRoot (serve plainConfig fileRoot threeDocuments).2).1 =
        (serve plainConfig takeFromRoot threeDocuments).1 ∧
      (serve plainConfig fileRoot (serve plainConfig takeFromRoot threeDocuments).2).1 =
        (serve plainConfig fileRoot threeDocuments).1 ∧
      (serve plainConfig takeFromRoot threeDocuments).1.status = 204 ∧
      (serve plainConfig fileRoot threeDocuments).1.status = 201 ∧
      ∀ parent, (serve plainConfig fileRoot
          (serve plainConfig takeFromRoot threeDocuments).2).2.edges parent =
        (serve plainConfig takeFromRoot
          (serve plainConfig fileRoot threeDocuments).2).2.edges parent := by
  have hs : threeDocuments.Sound := (Committed.work .empty _).sound
  have hroot : takeFromRoot.parent? threeDocuments = some (.ofNode 1) := by decide +kernel
  have hfolder : fileRoot.parent? threeDocuments = some (.ofNode 2) := by decide +kernel
  have hapart (id : Uuid) (h : takeFromRoot.parent? threeDocuments = some id) :
      fileRoot.parent? threeDocuments ≠ some id := by
    rw [hroot] at h
    cases h
    rw [hfolder]
    decide
  obtain ⟨htake, hfile, hedges⟩ := serve_isolated plainConfig takeFromRoot fileRoot hs hapart
  exact ⟨htake, hfile, by decide +kernel, by decide +kernel, hedges⟩

end Multifiling.Api
