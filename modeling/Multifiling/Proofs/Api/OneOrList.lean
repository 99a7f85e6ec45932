import Multifiling.Proofs.Api.UnitOfWork
import Multifiling.Proofs.ChildLink
import Multifiling.Proofs.Json
import Multifiling.Proofs.Session.Ordinary

/-!
Create requests with one link and with a list of it. An object holds a link in any mixture of the
spellings of its fields; what a request is answered with on success, which is what filing has made,
is read as the links that were sent. One object and a list of one object have the same effect and
are answered alike, the list with a list (`oneOrList`).
-/

namespace Multifiling.Api
open ChildLink Filing

variable {config : Config} {parent : String} {r r' : Request} {s : Store}

/-! ### Bodies -/

/-- The body of a request is a text of a value. Values that are nested too deep have no text that
can be read. -/
def Request.Sends (r : Request) (value : SentJson) : Prop :=
  ∃ text, r.body = some text ∧ Json.parseSent text = .ok value

theorem ne_empty_of_parse {text : String} {value : SentJson}
    (h : Json.parseSent text = .ok value) : text ≠ "" := by
  rintro rfl
  have hempty : Json.parseSent "" = .error .malformed := by decide +kernel
  rw [hempty] at h
  cases h

/-- Links are read from a body just if it is a text of a value that holds them. -/
theorem readBody_ok_iff {body : LinkBody SentText} :
    readBody r.body = .ok body ↔ ∃ value, r.Sends value ∧ LinkBody.ofJson value = .ok body := by
  constructor
  · intro h
    simp only [readBody] at h
    split at h
    · cases h
    · next text hbody =>
      split at h
      · cases h
      · split at h
        · cases h
        · cases h
        · next value hparse =>
          split at h
          · next hread =>
            cases h
            exact ⟨value, ⟨text, hbody, hparse⟩, hread⟩
          · split at h <;> cases h
  · rintro ⟨value, ⟨text, hbody, hparse⟩, hread⟩
    simp only [readBody, hbody, if_neg (ne_empty_of_parse hparse), hparse, hread]

theorem readBody_refuses {value : SentJson} {issues : List Issue} (h : r.Sends value)
    (hread : LinkBody.ofJson value = .error issues) : readBody r.body = .error
      (if value.written?.isNone then .crash
        else .invalid (issues.map (Issue.under [.key "body"]))) := by
  obtain ⟨text, hbody, hparse⟩ := h
  simp only [readBody, hbody, if_neg (ne_empty_of_parse hparse), hparse, hread]
  split <;> rfl

/-! ### Answers -/

/-- Requests to file children under one parent; one sends an object, the other a list of it. -/
structure OneAndList (parent : String) (fields : List (SentText × SentJson)) (r r' : Request) :
    Prop where
  routes : Route.ofPath r.path = .children parent ∧ Route.ofPath r'.path = .children parent
  methods : Method.ofWord? r.method = some .post ∧ Method.ofWord? r'.method = some .post
  one : r.Sends (.object fields)
  list : r'.Sends (.array [.object fields])

/-- The answer to a list of one object, by the answer to the object. -/
inductive Listed : Response → Response → Prop where
  | created (json : Json) : Listed ⟨201, some json⟩ ⟨201, some (.array [json])⟩
  | refused (e : Failure) : Listed (.ofFailure e) (.ofFailure e)
  | unread (issues later : List Issue) : Listed (.invalid issues) (.invalid later)
  | crashed : Listed .crash .crash

namespace Listed

variable {answer answer' : Response}

theorem status (h : Listed answer answer') : answer.status = answer'.status := by
  cases h <;> rfl

theorem of_created (h : Listed answer answer') (hcreated : answer.status = 201) :
    ∃ json, answer = ⟨201, some json⟩ ∧ answer' = ⟨201, some (.array [json])⟩ := by
  cases h with
  | created json => exact ⟨json, rfl, rfl⟩
  | refused e => simpa [Response.succeeds, hcreated] using ofFailure_succeeds e
  | unread | crashed => cases hcreated

theorem of_refused (h : Listed answer answer') (hrefused : answer.status ∈ [400, 404, 409]) :
    answer = answer' := by
  cases h with
  | created json => exact absurd hrefused (by simp)
  | unread issues later => exact absurd hrefused (by simp [Response.invalid, Response.refuse])
  | refused | crashed => rfl

end Listed

/-- A create request that succeeds is answered with a body that is read as what it sent. -/
theorem create_echo {json : Json} (h : (create config parent r s).1 = ⟨201, some json⟩) :
    ∃ body, readBody r.body = .ok body ∧ LinkBody.ofJson json.sent = .ok body := by
  rw [create_answered] at h
  cases hbody : readBody r.body with
  | error response =>
    have hsucceeds := readBody_error hbody
    rw [hbody] at h
    simp only at h
    rw [h] at hsucceeds
    cases hsucceeds
  | ok body =>
    rw [hbody] at h
    simp only [answered] at h
    split at h
    · next e _ =>
      have hsucceeds := ofFailure_succeeds e
      rw [h] at hsucceeds
      cases hsucceeds
    · obtain ⟨value, -, hread⟩ := readBody_ok_iff.mp hbody
      have hecho : body.echo? = some json := congrArg Response.body h
      exact ⟨body, rfl, LinkBody.ofJson_echo (LinkBody.ofJson_childId hread) hecho⟩

theorem isNone_written?_singleton (value : SentJson) :
    (Json.array [value]).written?.isNone = value.written?.isNone := by
  simp only [Json.written?, Json.writtenAll?]
  cases value.written? <;> rfl

theorem create_listed {fields : List (SentText × SentJson)} (config : Config) (s : Store)
    (h : OneAndList parent fields r r') :
    Listed (create config parent r s).1 (create config parent r' s).1 ∧
      (create config parent r s).2 = (create config parent r' s).2 := by
  rw [create_answered, create_answered]
  rcases LinkBody.ofJson_singleton fields with ⟨link, hone, hlist⟩ | ⟨issues, later, hone, hlist⟩
  · have hread : readBody r.body = .ok (.one link) := readBody_ok_iff.mpr ⟨_, h.one, hone⟩
    have hread' : readBody r'.body = .ok (.many [link]) := readBody_ok_iff.mpr ⟨_, h.list, hlist⟩
    simp only [hread, hread', answered, Operation.transact, LinkBody.links]
    cases hrun : (Filing.create config.registry parent (LinkBody.one link).links).run s with
    | error e t =>
      simp only [LinkBody.links] at hrun
      rw [hrun]
      exact ⟨.refused e, trivial⟩
    | ok made t =>
      obtain ⟨json, hjson⟩ := Option.isSome_iff_exists.mp (made_echo hrun).2
      simp only [LinkBody.links] at hrun
      rw [hrun, LinkBody.echo?_singleton, hjson]
      exact ⟨.created json, trivial⟩
  · rw [readBody_refuses h.one hone, readBody_refuses h.list hlist, isNone_written?_singleton]
    cases (Json.object fields).written?.isNone with
    | true => exact ⟨.crashed, rfl⟩
    | false => exact ⟨.unread _ _, rfl⟩

/-- A document and a type, each in another spelling, a word for a truth value, and a note. -/
def noted : List (String × Json) :=
  [("childId", .string "00000002-0000-7000-8000-000000000003"), ("note", .array [.int 1, .null]),
    ("assoc_type", .string "cm:contains"), ("isPrimary", .string "no")]

def notedText : String :=
  "\x7b\"childId\": \"00000002-0000-7000-8000-000000000003\", \"note\": [1, null], " ++
    "\"assoc_type\": \"cm:contains\", \"isPrimary\": \"no\"\x7d"

def sendsOne : Request where
  method := "POST"
  path := "nodes/00000002-0000-7000-8000-000000000002/secondary-children"
  body := some notedText

def sendsList : Request where
  method := "POST"
  path := "nodes/00000002-0000-7000-8000-000000000002/secondary-children"
  body := some ("[" ++ notedText ++ "]")

theorem sendsOne_noted : sendsOne.Sends (.object (Json.sentFields noted)) :=
  ⟨notedText, rfl, by decide +kernel⟩

theorem sendsList_noted : sendsList.Sends (.array [.object (Json.sentFields noted)]) :=
  ⟨"[" ++ notedText ++ "]", rfl, by decide +kernel⟩

/-- A link without a type, which counts before the one in camel case. -/
def untyped : List (String × Json) :=
  [("isPrimary", .bool false), ("childId", .string "x"), ("assocType", .int 1),
    ("assoc_type", .null)]

theorem untyped_holds : Holds untyped ⟨"x", none, false⟩ where
  distinct := by decide
  childId := .inr ⟨by decide, by simp [untyped]⟩
  assocType := .inl (by simp [untyped, Json.ofTextOption])
  isPrimary := .inr ⟨by decide, by simp [untyped]⟩

end Multifiling.Api
