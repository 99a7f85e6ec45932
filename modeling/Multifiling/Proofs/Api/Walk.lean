import Multifiling.Proofs.Api.Page

/-!
Walks through a listing, page by page. A client asks for the first page, and as long as there is
more for the page behind the last, in steps of any size; between two pages other requests may file
children, under this parent or others. Since children that are filed come last in the listing, the
client misses nothing and receives nothing twice.
-/

namespace Multifiling.Api
open Store

variable {config : Config} {s t : Store}

/-! ### Requests in between -/

/-- A request to file children only adds secondary associations. -/
theorem post_changes (config : Config) {r : Request}
    (hpost : Method.ofWord? r.method = some .post) (s : Store) :
    Changes Kind.adding s (serve config r s).2 := by
  rw [serve_store]
  rcases respond_cases config r s with ⟨parent, -, -, hr⟩ | ⟨_, _, -, hdelete, -⟩ | ⟨_, hr⟩
  · rw [hr, create_answered]
    cases readBody r.body with
    | error response => exact .refl s
    | ok body =>
      simp only [answered_store]
      exact transact_changes ((Filing.create_after ..).mono (by decide)) (by decide)
  · rw [hpost] at hdelete
    cases hdelete
  · rw [hr]
    exact .refl s

/-- The rows after requests, one after the other. -/
def serveAll (config : Config) (requests : List Request) (s : Store) : Store :=
  requests.foldl (fun s r => (serve config r s).2) s

theorem serveAll_changes (config : Config) {requests : List Request}
    (h : ∀ r ∈ requests, Method.ofWord? r.method = some .post) (s : Store) :
    Changes Kind.adding s (serveAll config requests s) := by
  induction requests generalizing s with
  | nil => exact .refl s
  | cons r rest ih =>
    exact (post_changes config (h r List.mem_cons_self) s).trans
      (ih (fun r' hr' => h r' (List.mem_cons_of_mem r hr')) _)

/-! ### Walks -/

/-- A request for a page, and those that are answered before it. -/
structure Round where
  before : List Request
  request : Request

/-- A client on a walk: the committed rows, the items of all pages so far, and the last page. -/
structure Client where
  store : Store
  received : List Json := []
  last : Option Received := none

namespace Client

/-- The offset to ask for next: behind the last page. -/
def next (c : Client) : Int :=
  match c.last with
  | none => 0
  | some page => page.offset + page.items.length

/-- Whether the client goes on: it has no page yet, or the last page says that there is more. -/
def wantsMore (c : Client) : Bool := c.last.all (·.hasMore)

/-- The client after a round, if the answer holds a page. -/
def turn (config : Config) (c : Client) (round : Round) : Option Client :=
  let (response, s) := serve config round.request (serveAll config round.before c.store)
  response.page?.map fun page =>
    { store := s, received := c.received ++ page.items, last := some page }

end Client

/-- A round that a client goes: more is wanted, the page asked for is the next, and what happens
before are requests to file children. -/
structure Next (target : Target) (c : Client) (round : Round) : Prop where
  wantsMore : c.wantsMore = true
  asks : target.Asks c.next round.request
  before : ∀ r ∈ round.before, Method.ofWord? r.method = some .post

/-- A client has gone these rounds through a listing, beginning on some rows. -/
inductive Walk (config : Config) (target : Target) (s : Store) : List Round → Client → Prop where
  | start : Walk config target s [] { store := s }
  | turn {rounds : List Round} {c c' : Client} {round : Round} (h : Walk config target s rounds c)
    (hnext : Next target c round) (hturn : c.turn config round = some c') :
    Walk config target s (rounds ++ [round]) c'

/-- What holds of a client on a walk, where the whole listing is now `full`. -/
structure OnWalk (s : Store) (full : List NodeView) (rounds : List Round) (c : Client) : Prop where
  grown : Changes Kind.adding s c.store
  received : c.received <+: full.map NodeView.toJson
  next : c.next = c.received.length
  last : ∀ page ∈ c.last, page.total = full.length ∧
    page.hasMore = decide (c.received.length < full.length)
  /-- Every page but the first has an item. -/
  counted : rounds.length ≤ max 1 c.received.length
  ongoing : c.wantsMore = true → rounds.length ≤ c.received.length

section

variable {target : Target} {parent : Node} {type : Option QName} {includes : List Include}
  {full : List NodeView} {rounds : List Round} {round : Round} {c c' : Client}

theorem Target.Accepted.sameTree (ht : target.Accepted config s parent type includes)
    (h : SameTree s t) : target.Accepted config t parent type includes :=
  ⟨(h.lookup _).trans ht.parent, ht.clause, ht.parts⟩

theorem OnWalk.start (s : Store) (full : List NodeView) : OnWalk s full [] { store := s } where
  grown := .refl s
  received := List.nil_prefix
  next := rfl
  last := nofun
  counted := Nat.zero_le _
  ongoing _ := Nat.le_refl _

/-- A client that wants more has received nothing yet, or less than there is. -/
theorem OnWalk.unfinished (hc : OnWalk s full rounds c) (h : c.wantsMore = true) :
    c.last = none ∧ c.received = [] ∨ c.received.length < full.length := by
  cases hlast : c.last with
  | none =>
    have hnext := hc.next
    rw [Client.next, hlast] at hnext
    simp only at hnext
    exact .inl ⟨rfl, List.eq_nil_of_length_eq_zero (by omega)⟩
  | some page =>
    rw [Client.wantsMore, hlast] at h
    have hmore := (hc.last page hlast).2
    rw [show page.hasMore = true from h] at hmore
    exact .inr (of_decide_eq_true hmore.symm)

/-- A client that wants no more has received as much as there is. -/
theorem OnWalk.finished (hc : OnWalk s full rounds c) (h : c.wantsMore = false) :
    full.length ≤ c.received.length := by
  cases hlast : c.last with
  | none =>
    rw [Client.wantsMore, hlast] at h
    cases h
  | some page =>
    rw [Client.wantsMore, hlast] at h
    have hmore := (hc.last page hlast).2
    rw [show page.hasMore = false from h] at hmore
    exact Nat.not_lt.mp (of_decide_eq_false hmore.symm)

/-- In a round the client receives what follows in the listing as it is then. -/
theorem OnWalk.turn_eq (hdefault : 1 ≤ config.defaultPageSize) (hmax : 1 ≤ config.maxPageSize)
    (hs : s.Constraints) (ht : target.Accepted config s parent type includes)
    (hfull : Filing.listing c.store config.registry includes parent.id type = .ok full)
    (hc : OnWalk s full rounds c) (hnext : Next target c round) :
    ∃ t full' rest limit, Changes Kind.adding s t ∧
      Filing.listing t config.registry includes parent.id type = .ok full' ∧
      full.length ≤ full'.length ∧ full'.map NodeView.toJson = c.received ++ rest ∧ 1 ≤ limit ∧
      c.turn config round = some
        { store := t, received := c.received ++ rest.take limit
          last := some ⟨rest.take limit, full'.length, c.received.length,
            c.received.length + (rest.take limit).length < full'.length⟩ } := by
  have hadded := serveAll_changes config hnext.before c.store
  have hgrown := hc.grown.trans hadded
  obtain ⟨full', hfull', happended⟩ :=
    Filing.listing_grows (hc.grown.constraints (by decide) hs) hadded hfull
  obtain ⟨rest, hrest⟩ := hc.received.trans (happended.map NodeView.toJson)
  have hsame := hgrown.sameTree (by decide)
  obtain ⟨response, limit, hserve, hlimit, hpage⟩ :=
    serve_page hdefault hmax (ht.sameTree hsame) hfull' (hc.next ▸ hnext.asks)
  refine ⟨_, full', rest, limit, hgrown, hfull', happended.length_le, hrest.symm, hlimit, ?_⟩
  -- the page begins behind what was received, where the rest of the listing begins
  have hitems : ((full'.drop c.received.length).take limit).map NodeView.toJson =
      rest.take limit := by
    rw [List.map_take, List.map_drop, ← hrest, List.drop_left]
  have hcount : ((full'.drop c.received.length).take limit).length = (rest.take limit).length := by
    rw [← hitems, List.length_map]
  simp only [hitems, hcount] at hpage
  simp only [Client.turn, hserve, hpage, Option.map_some]

/-- A round keeps what holds on a walk. -/
theorem OnWalk.turn (hdefault : 1 ≤ config.defaultPageSize) (hmax : 1 ≤ config.maxPageSize)
    (hs : s.Constraints) (ht : target.Accepted config s parent type includes)
    (hfull : Filing.listing c.store config.registry includes parent.id type = .ok full)
    (hc : OnWalk s full rounds c) (hnext : Next target c round)
    (hturn : c.turn config round = some c') :
    ∃ full', Filing.listing c'.store config.registry includes parent.id type = .ok full' ∧
      OnWalk s full' (rounds ++ [round]) c' := by
  obtain ⟨t, full', rest, limit, hgrown, hfull', hlen, hrest, hlimit, h⟩ :=
    hc.turn_eq hdefault hmax hs ht hfull hnext
  rw [h] at hturn
  cases hturn
  have hlength : full'.length = c.received.length + rest.length := by
    rw [← List.length_append, ← hrest, List.length_map]
  have hcount := hc.ongoing hnext.wantsMore
  have htake := List.length_take (i := limit) (l := rest)
  -- nothing is left at most on the first page, of an empty listing
  have hempty : rest.length = 0 → rounds.length = 0 := by
    intro hrest
    rcases hc.unfinished hnext.wantsMore with ⟨-, hnil⟩ | hless
    · rw [hnil] at hcount
      simpa using hcount
    · omega
  refine ⟨full', hfull', hgrown, ?_, ?_, ?_, ?_, ?_⟩
  · rw [hrest]
    exact (List.prefix_append_right_inj _).mpr (List.take_prefix limit rest)
  · simp [Client.next]
  · intro page hpage
    cases hpage
    exact ⟨rfl, by rw [List.length_append]⟩
  · rw [List.length_append, List.length_append, List.length_singleton]
    omega
  · intro hmore
    have hless : c.received.length + (rest.take limit).length < full'.length := by
      simpa [Client.wantsMore] using hmore
    rw [List.length_append, List.length_append, List.length_singleton]
    omega

theorem Walk.onWalk (hdefault : 1 ≤ config.defaultPageSize) (hmax : 1 ≤ config.maxPageSize)
    (hs : s.Constraints) (ht : target.Accepted config s parent type includes)
    (h : Walk config target s rounds c) :
    ∃ full, Filing.listing c.store config.registry includes parent.id type = .ok full ∧
      OnWalk s full rounds c := by
  induction h with
  | start =>
    obtain ⟨full, hfull⟩ := Filing.listing_ok hs config.registry includes parent.id type
    exact ⟨full, hfull, .start s full⟩
  | turn _ hnext hturn ih =>
    obtain ⟨full, hfull, hc⟩ := ih
    exact hc.turn hdefault hmax hs ht hfull hnext hturn

/-- Without requests in between, the rows stay as they are. -/
theorem Walk.store_eq (h : Walk config target s rounds c) (hquiet : ∀ r ∈ rounds, r.before = []) :
    c.store = s := by
  induction h with
  | start => rfl
  | @turn rounds c c' round _ hnext hturn ih =>
    have hstore := ih fun r hr => hquiet r (List.mem_append_left _ hr)
    have hround := hquiet round (by simp)
    rcases respond_cases config round.request c.store with
      ⟨_, -, hpost, -⟩ | ⟨_, _, -, hdelete, -⟩ | ⟨response, hr⟩
    · rw [hnext.asks.method] at hpost
      cases hpost
    · rw [hnext.asks.method] at hdelete
      cases hdelete
    · have hserve : (serve config round.request c.store).2 = c.store := by rw [serve_store, hr]
      simp only [Client.turn, hround, serveAll, List.foldl_nil, Option.map_eq_some_iff] at hturn
      obtain ⟨page, -, rfl⟩ := hturn
      exact hserve.trans hstore

/-- A client that has gone these rounds through a listing, which is now `full`, has lost nothing and
received nothing twice. -/
structure LosesNothing (config : Config) (target : Target) (s : Store) (full : List NodeView)
    (rounds : List Round) (c : Client) : Prop where
  /-- What it has received is the beginning of the listing. -/
  received : c.received <+: full.map NodeView.toJson
  total : ∀ page ∈ c.last, page.total = full.length
  /-- It has received the whole listing when there is no more. -/
  whole : c.wantsMore = false → c.received = full.map NodeView.toJson
  /-- The next request is answered with a page, with items if there was more. -/
  answered : ∀ round, Next target c round → ∃ c' page, c.turn config round = some c' ∧
    c'.last = some page ∧ (c.last.isSome → page.items ≠ [])
  /-- Without requests in between there are at most as many rounds as children, or one. -/
  bounded : (∀ r ∈ rounds, r.before = []) → c.store = s ∧ rounds.length ≤ max 1 full.length ∧
    (c.wantsMore = true → rounds.length < max 1 full.length)

/-- On every walk through a listing, at any of its rounds, the client has lost nothing. -/
theorem walk_losesNothing (hdefault : 1 ≤ config.defaultPageSize) (hmax : 1 ≤ config.maxPageSize)
    (hs : s.Constraints) (ht : target.Accepted config s parent type includes)
    (h : Walk config target s rounds c) :
    ∃ full, Filing.listing c.store config.registry includes parent.id type = .ok full ∧
      LosesNothing config target s full rounds c := by
  obtain ⟨full, hfull, hc⟩ := h.onWalk hdefault hmax hs ht
  have hle := hc.received.length_le
  rw [List.length_map] at hle
  refine ⟨full, hfull, hc.received, fun page hpage => (hc.last page hpage).1, ?_, ?_, ?_⟩
  · intro hdone
    exact hc.received.eq_of_length_le (by rw [List.length_map]; exact hc.finished hdone)
  · intro round hnext
    obtain ⟨t, full', rest, limit, -, -, hlen, hrest, hlimit, hturn⟩ :=
      hc.turn_eq hdefault hmax hs ht hfull hnext
    refine ⟨_, _, hturn, rfl, fun hlast hnil => ?_⟩
    have hlength : full'.length = c.received.length + rest.length := by
      rw [← List.length_append, ← hrest, List.length_map]
    rcases hc.unfinished hnext.wantsMore with ⟨hnone, -⟩ | hless
    · rw [hnone] at hlast
      cases hlast
    · -- an empty page would mean that nothing is left, but the last page said that there is
      have hzero := congrArg List.length hnil
      rw [List.length_take, List.length_nil] at hzero
      omega
  · intro hquiet
    have hcounted := hc.counted
    refine ⟨h.store_eq hquiet, by omega, fun hmore => ?_⟩
    have hongoing := hc.ongoing hmore
    rcases hc.unfinished hmore with ⟨-, hnil⟩ | hless
    · rw [hnil] at hongoing
      simp only [List.length_nil] at hongoing
      omega
    · omega

end

/-! ### A walk of two rounds -/

/-- A folder with three documents, two of which are filed under the root as well. -/
def threeDocuments : Store :=
  Session.workUnit
    [.createNode { name := some "Home", type := ContentModel.folder, isRoot := true } none,
      .createNode { name := some "Notes", type := ContentModel.folder } (some (.ofNode 1)),
      .createNode { name := some "a.txt" } (some (.ofNode 2)),
      .createNode { name := some "b.txt" } (some (.ofNode 2)),
      .createNode { name := some "c.txt" } (some (.ofNode 2)),
      .addChild (.ofNode 1) (.ofNode 3) ContentModel.contains
        ⟨ContentModel.contentUri, "a.txt", by decide⟩,
      .addChild (.ofNode 1) (.ofNode 4) ContentModel.contains
        ⟨ContentModel.contentUri, "b.txt", by decide⟩] {}

def underRoot : Target := ⟨Store.rootAlias, none, none⟩

/-- One child is asked for. -/
def firstRound : Round where
  before := []
  request :=
    { method := "GET", path := "nodes/-root-/secondary-children", query := [("limit", "1")] }

/-- The third document is filed under the root, then what is left is asked for. -/
def secondRound : Round where
  before :=
    [{ method := "POST", path := "nodes/00000002-0000-7000-8000-000000000001/secondary-children"
       body := some ("\x7b\"child_id\": \"00000002-0000-7000-8000-000000000005\", " ++
        "\"assoc_type\": \"cm:contains\"\x7d") }]
  request :=
    { method := "GET", path := "nodes/-root-/secondary-children", query := [("offset", "1")] }

theorem walk_through_threeDocuments :
    ∃ parent c full, threeDocuments.Constraints ∧
      underRoot.Accepted plainConfig threeDocuments parent none [] ∧
      Walk plainConfig underRoot threeDocuments [firstRound, secondRound] c ∧
      c.received.length = 3 ∧
      LosesNothing plainConfig underRoot threeDocuments full [firstRound, secondRound] c := by
  have hs : threeDocuments.Constraints := (Committed.work .empty _).sound.constraints
  have hparent : (threeDocuments.lookup (some rootAlias)).isOk := by decide +kernel
  cases hlookup : threeDocuments.lookup (some rootAlias) with
  | error e => rw [hlookup] at hparent; cases hparent
  | ok parent =>
    have ht : underRoot.Accepted plainConfig threeDocuments parent none [] :=
      ⟨hlookup, ⟨none, rfl, rfl⟩, rfl⟩
    have hfirst : (({ store := threeDocuments } : Client).turn plainConfig firstRound).map
        (fun c => (c.next, c.wantsMore)) = some (1, true) := by decide +kernel
    have hsecond : ((({ store := threeDocuments } : Client).turn plainConfig firstRound).bind
        (·.turn plainConfig secondRound)).map (·.received.length) = some 3 := by decide +kernel
    obtain ⟨c₁, hturn₁, hc₁⟩ := Option.map_eq_some_iff.mp hfirst
    rw [hturn₁, Option.bind_some] at hsecond
    obtain ⟨c₂, hturn₂, hc₂⟩ := Option.map_eq_some_iff.mp hsecond
    obtain ⟨hnext, hmore⟩ := Prod.mk.inj hc₁
    have hwalk₁ : Walk plainConfig underRoot threeDocuments [firstRound] c₁ := by
      refine .turn .start ⟨rfl, ⟨by decide, by decide, rfl, rfl, some 1, ?_⟩, nofun⟩ hturn₁
      decide +kernel
    have hwalk₂ : Walk plainConfig underRoot threeDocuments [firstRound, secondRound] c₂ := by
      refine .turn hwalk₁ ⟨hmore, ⟨by decide, by decide, rfl, rfl, none, ?_⟩, ?_⟩ hturn₂
      · rw [hnext]
        decide +kernel
      · intro r hr
        cases List.mem_singleton.mp hr
        decide
    obtain ⟨full, -, h⟩ := walk_losesNothing (by decide) (by decide) hs ht hwalk₂
    exact ⟨parent, c₂, full, hs, ht, hwalk₂, hc₂, h⟩

end Multifiling.Api
