import Multifiling.Proofs.Api.UnitOfWork
import Multifiling.Proofs.Filing.Listing

/-!
Pages of a listing as clients see them. A client reads the items, the total and whether there is
more from the answer's body; `serve_page` says what it reads.
-/

namespace Multifiling.Api
open Store

variable {config : Config} {r : Request} {s : Store}

/-- A page as a client reads it. -/
structure Received where
  items : List Json
  total : Int
  offset : Int
  hasMore : Bool

/-- The page that an answer holds. -/
def Response.page? (response : Response) : Option Received :=
  match response.status, response.body with
  | 200, some (.object fields) =>
    match fields.lookup "items", fields.lookup "total", fields.lookup "offset",
      fields.lookup "has_more" with
    | some (.array items), some (.int total), some (.int offset), some (.bool hasMore) =>
      some { items, total, offset, hasMore }
    | _, _, _, _ => none
  | _, _ => none

theorem page?_pageJson (views : List NodeView) (total : Nat) (offset limit : Int) :
    (⟨200, some (pageJson views total offset limit)⟩ : Response).page? =
      some ⟨views.map NodeView.toJson, total, offset, offset + views.length < total⟩ := rfl

/-- The answer with a page, or with the failure to list it. -/
def pageAnswer (offset limit : Int) : Except Failure (List NodeView × Nat) → Response
  | .error e => .ofFailure e
  | .ok (views, total) => ⟨200, some (pageJson views total offset limit)⟩

theorem ofFailure_page? (e : Failure) : (Response.ofFailure e).page? = none := by
  rcases ofFailure_cases e with h | ⟨_, h | h | h⟩ <;>
  · rw [h]
    rfl

variable {parent : String}

theorem list_read (config : Config) (parent : String) (s : Store) {page : Page}
    {assocType : Option String} {includes : List Include}
    (hpage : Page.read (r.parameter? "offset") (r.parameter? "limit") = .ok page)
    (hclause : readWhere (r.parameter? "where") = .ok assocType)
    (hparts : readInclude (r.parameter? "include") = .ok includes) :
    let limit := page.size config.defaultPageSize config.maxPageSize
    list config parent r s = pageAnswer page.offset limit
      (Filing.list s config.registry parent assocType includes page.offset limit) := by
  simp only [list, hpage, hclause, hparts]
  cases Filing.list s config.registry parent assocType includes page.offset
    (page.size config.defaultPageSize config.maxPageSize) <;> rfl

/-- A page that is answered was listed with the parts that were read. -/
theorem list_of_page? {page : Received} (h : (list config parent r s).page? = some page) :
    ∃ includes assocType offset limit views total,
      readInclude (r.parameter? "include") = .ok includes ∧
      Filing.list s config.registry parent assocType includes offset limit = .ok (views, total) ∧
      page.items = views.map NodeView.toJson := by
  cases hpage : Page.read (r.parameter? "offset") (r.parameter? "limit") with
  | error issues =>
    simp only [list, hpage] at h
    cases h
  | ok asked =>
    cases hclause : readWhere (r.parameter? "where") with
    | error e =>
      simp only [list, hpage, hclause] at h
      cases h
    | ok assocType =>
      cases hparts : readInclude (r.parameter? "include") with
      | error e =>
        simp only [list, hpage, hclause, hparts] at h
        cases h
      | ok includes =>
        rw [list_read config parent s hpage hclause hparts] at h
        cases hlist : Filing.list s config.registry parent assocType includes asked.offset
            (asked.size config.defaultPageSize config.maxPageSize) with
        | error e =>
          rw [hlist, pageAnswer, ofFailure_page?] at h
          cases h
        | ok listed =>
          rw [hlist] at h
          cases h
          exact ⟨_, _, _, _, _, _, rfl, hlist, rfl⟩

/-! ### Parameters -/

theorem readInt_ok {name given : String} {least : Nat} {n : Int}
    (h : Page.readInt name least given = .ok n) : least ≤ n := by
  rw [Page.readInt] at h
  split at h
  · cases h
  · split at h
    · cases h
    · cases h
      omega

/-- A page that can be read has a limit of at least one, if it has one. -/
theorem Page.limit_pos {offset limit : Option String} {page : Page}
    (h : Page.read offset limit = .ok page) : ∀ n ∈ page.limit, 1 ≤ n := by
  unfold Page.read at h
  simp only at h
  split at h
  · next hoffset hlimit =>
    cases h
    cases limit with
    | none => cases hlimit; exact nofun
    | some given =>
      simp only at hlimit
      cases hn : readInt "limit" 1 given with
      | error issue => rw [hn] at hlimit; cases hlimit
      | ok n =>
        rw [hn] at hlimit
        cases hlimit
        intro m hm
        cases hm
        exact readInt_ok hn
  · cases h
  · cases h
  · cases h

/-- No page size is below one, if the configured ones are not. -/
theorem Page.size_pos {page : Page} {default maximum : Int} (hd : 1 ≤ default) (hm : 1 ≤ maximum)
    (h : ∀ n ∈ page.limit, 1 ≤ n) : 1 ≤ page.size default maximum := by
  rw [Page.size]
  cases hl : page.limit with
  | none => exact Int.le_min.mpr ⟨hd, hm⟩
  | some n => exact Int.le_min.mpr ⟨h n hl, hm⟩

/-! ### Requests for pages -/

/-- What the requests for the pages of one listing have in common: the text that names the parent,
the clause that names an association type, and the parts to include. -/
structure Target where
  parent : String
  clause : Option String
  parts : Option String

namespace Target

/-- The listing exists: the parent is there, and clause and parts can be read. -/
structure Accepted (target : Target) (config : Config) (s : Store) (parent : Node)
    (type : Option QName) (includes : List Include) : Prop where
  parent : s.lookup (some target.parent) = .ok parent
  clause : ∃ assocType, readWhere target.clause = .ok assocType ∧
    Filing.optionalType config.registry assocType = .ok type
  parts : readInclude target.parts = .ok includes

/-- A request for the page of a listing that begins at an offset, of any size. -/
structure Asks (target : Target) (offset : Int) (r : Request) : Prop where
  route : Route.ofPath r.path = .children target.parent
  method : Method.ofWord? r.method = some .get
  clause : r.parameter? "where" = target.clause
  parts : r.parameter? "include" = target.parts
  page : ∃ limit, Page.read (r.parameter? "offset") (r.parameter? "limit") = .ok ⟨offset, limit⟩

end Target

theorem serve_list (config : Config) (s : Store) {parent : String}
    (hroute : Route.ofPath r.path = .children parent)
    (hget : Method.ofWord? r.method = some .get) :
    serve config r s = (list config parent r s, s) := by
  rw [serve_eq config s (by simp [hget]), respond, hroute, hget]

/-- The answer is a part of the whole listing from the offset on; it is empty only at its end. -/
theorem serve_page {target : Target} {parent : Node} {type : Option QName}
    {includes : List Include} {full : List NodeView} {offset : Nat}
    (hdefault : 1 ≤ config.defaultPageSize) (hmax : 1 ≤ config.maxPageSize)
    (ht : target.Accepted config s parent type includes)
    (hfull : Filing.listing s config.registry includes parent.id type = .ok full)
    (hr : target.Asks offset r) :
    ∃ response limit, serve config r s = (response, s) ∧ 1 ≤ limit ∧
      let views := (full.drop offset).take limit
      response.page? = some ⟨views.map NodeView.toJson, full.length, offset,
        offset + views.length < full.length⟩ := by
  obtain ⟨assocType, hclause, htype⟩ := ht.clause
  obtain ⟨limit, hpage⟩ := hr.page
  have hsize := Page.size_pos hdefault hmax (Page.limit_pos hpage)
  have hlist := Filing.list_eq ht.parent htype hfull offset (Int.le_trans (by decide) hsize)
  refine ⟨_, ((⟨offset, limit⟩ : Page).size config.defaultPageSize config.maxPageSize).toNat,
    serve_list config s hr.route hr.method, by omega, ?_⟩
  have hcast (k : Nat) : decide ((offset : Int) + k < full.length) =
      decide (offset + k < full.length) := decide_eq_decide.mpr (by omega)
  simp only [list, hpage, hr.clause, hr.parts, hclause, ht.parts, hlist, page?_pageJson, hcast]

end Multifiling.Api
