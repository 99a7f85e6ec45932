import Multifiling.ChildLink
import Multifiling.Proofs.Entries
import Multifiling.Proofs.Json

/-!
Links and their JSON. An object that holds a link, each field in one of its spellings and any other
fields beside them, is read as this link (`ofFields_of_holds`); the answer to links that were read
is read as the same links (`LinkBody.ofJson_echo`), and it can be written if their types can. A
list of one object is read just if the object is.
-/

namespace Multifiling
open Entries TextForm

variable {τ : Type} [DecidableEq τ] [TextForm τ]

/-! ### Objects -/

namespace ChildLink

variable {fields : List (τ × Json τ)} {link : ChildLink τ}

/-- Fields hold a value in one of two spellings: in the plain one, or in camel case alone. -/
def HoldsField (fields : List (τ × Json τ)) (plain camel : String) (value : Json τ) : Prop :=
  (ofString plain, value) ∈ fields ∨
    ofString plain ∉ fields.map Prod.fst ∧ (ofString camel, value) ∈ fields

/-- Fields of an object that hold a link, among any others. -/
structure Holds (fields : List (τ × Json τ)) (link : ChildLink τ) : Prop where
  distinct : (fields.map Prod.fst).Nodup
  childId : HoldsField fields "child_id" "childId" (.string (ofString link.childId))
  assocType : HoldsField fields "assoc_type" "assocType" (.ofTextOption link.assocType)
  isPrimary : HoldsField fields "is_primary" "isPrimary" (.bool link.isPrimary)

theorem field?_of_holdsField {plain camel : String} {value : Json τ}
    (hdistinct : (fields.map Prod.fst).Nodup) (h : HoldsField fields plain camel value) :
    ∃ key, field? fields plain camel = some (key, value) := by
  rcases h with hplain | ⟨hnone, hcamel⟩
  · have hfound : fields.lookup (ofString plain) = some value :=
      (get?_eq_some_iff hdistinct).mpr hplain
    exact ⟨plain, by rw [field?, hfound]⟩
  · have hfound : fields.lookup (ofString camel) = some value :=
      (get?_eq_some_iff hdistinct).mpr hcamel
    have habsent : fields.lookup (ofString plain) = none :=
      Option.not_isSome_iff_eq_none.mp (mt get?_isSome_iff.mp hnone)
    exact ⟨camel, by rw [field?, habsent, hfound, Option.map_some]⟩

theorem ofFields_of_holds (h : Holds fields link) (hne : link.childId ≠ "") :
    ofFields fields = .ok link := by
  obtain ⟨_, hchild⟩ := field?_of_holdsField h.distinct h.childId
  obtain ⟨_, htype⟩ := field?_of_holdsField h.distinct h.assocType
  obtain ⟨_, hprimary⟩ := field?_of_holdsField h.distinct h.isPrimary
  have hreadChild : readChildId fields = .ok link.childId := by
    simp only [readChildId, hchild, string?_ofString, if_neg hne]
  have hreadType : readAssocType fields = .ok link.assocType := by
    rw [readAssocType, htype]
    cases link.assocType <;> rfl
  have hreadPrimary : readIsPrimary fields = .ok link.isPrimary := by
    simp only [readIsPrimary, hprimary, readBool]
  rw [ofFields, hreadChild, hreadType, hreadPrimary]

/-- A link that was read has a child. -/
theorem ofFields_childId (h : ofFields fields = .ok link) : link.childId ≠ "" := by
  rw [ofFields] at h
  split at h
  · next hchild _ _ =>
    cases h
    rw [readChildId] at hchild
    split at hchild
    · cases hchild
    · split at hchild
      · cases hchild
      · split at hchild
        · cases hchild
        · next hne =>
          cases hchild
          exact hne
    · cases hchild
  · cases h

theorem ofJson_childId {other : IssueKind} {value : Json τ} (h : ofJson other value = .ok link) :
    link.childId ≠ "" := by
  cases value with
  | object fields => exact ofFields_childId h
  | null | bool | int | decimal | notFinite | string | array => cases h

/-- A link with a child is read from its own object. -/
theorem ofJson_toJson (other : IssueKind) (hne : link.childId ≠ "") :
    ofJson other link.toJson = .ok link :=
  ofFields_of_holds
    ⟨by simp [ofString_inj], .inl (by simp), .inl (by simp), .inl (by simp)⟩ hne

omit [DecidableEq τ] in
/-- A link is written if its type is. -/
theorem isSome_written? (h : ∀ text ∈ link.assocType, (string? text).isSome = true) :
    link.toJson.written?.isSome = true := by
  obtain ⟨childId, assocType, isPrimary⟩ := link
  cases assocType with
  | none => simp [toJson, Json.written?, Json.writtenFields?, Json.ofTextOption, string?_ofString]
  | some text =>
    obtain ⟨s, hs⟩ := Option.isSome_iff_exists.mp (h text rfl)
    simp [toJson, Json.written?, Json.writtenFields?, Json.ofTextOption, string?_ofString, hs]

end ChildLink

/-! ### Bodies -/

namespace LinkBody

variable {values : List (Json τ)} {links : List (ChildLink τ)} {body : LinkBody τ}

theorem readAll_childId {position : Nat} (h : readAll position values = .ok links) :
    ∀ link ∈ links, link.childId ≠ "" := by
  induction values generalizing position links with
  | nil =>
    cases h
    exact nofun
  | cons value rest ih =>
    rw [readAll] at h
    split at h
    · next hfirst hlater =>
      cases h
      exact List.forall_mem_cons.mpr ⟨ChildLink.ofJson_childId hfirst, ih hlater⟩
    · cases h
    · cases h
    · cases h

theorem readMany_childId {value : Json τ} (h : readMany value = .ok links) :
    ∀ link ∈ links, link.childId ≠ "" := by
  cases value with
  | array values => exact readAll_childId h
  | null | bool | int | decimal | notFinite | string | object => cases h

theorem ofJson_childId {value : Json τ} (h : ofJson value = .ok body) :
    ∀ link ∈ body.links, link.childId ≠ "" := by
  rw [ofJson] at h
  split at h
  · next hone =>
    cases h
    exact List.forall_mem_singleton.mpr (ChildLink.ofJson_childId hone)
  · next hmany _ =>
    cases h
    exact readMany_childId hmany
  · cases h

theorem readAll_toJson (position : Nat) (h : ∀ link ∈ links, link.childId ≠ "") :
    readAll position (links.map ChildLink.toJson) = .ok links := by
  induction links generalizing position with
  | nil => rfl
  | cons link rest ih =>
    obtain ⟨hne, hrest⟩ := List.forall_mem_cons.mp h
    rw [List.map_cons, readAll, ChildLink.ofJson_toJson _ hne, ih _ hrest]

/-- What is answered where all links of a body were made, if it can be written. -/
def echo? (body : LinkBody τ) : Option Json := (body.answer? body.links).bind Json.written?

/-- It is read as these links, in the same shape. -/
theorem ofJson_echo {json : Json} (h : ∀ link ∈ body.links, link.childId ≠ "")
    (hecho : body.echo? = some json) : ofJson json.sent = .ok body := by
  obtain ⟨value, hanswer, hwritten⟩ := Option.bind_eq_some_iff.mp hecho
  rw [Json.sent_of_written? hwritten]
  cases body with
  | one link =>
    have hne : link.childId ≠ "" := h link (List.mem_singleton.mpr rfl)
    cases hanswer
    rw [ofJson, ChildLink.ofJson_toJson _ hne]
  | many links =>
    have hread : readMany (.array ((many links).links.map ChildLink.toJson)) = .ok links :=
      readAll_toJson 0 h
    cases hanswer
    rw [ofJson, hread]
    rfl

omit [DecidableEq τ] in
theorem isSome_writtenAll? (h : ∀ link ∈ links, link.toJson.written?.isSome = true) :
    (Json.writtenAll? (links.map ChildLink.toJson)).isSome = true := by
  induction links with
  | nil => rfl
  | cons link rest ih =>
    obtain ⟨hfirst, hrest⟩ := List.forall_mem_cons.mp h
    obtain ⟨json, hjson⟩ := Option.isSome_iff_exists.mp hfirst
    obtain ⟨jsons, hjsons⟩ := Option.isSome_iff_exists.mp (ih hrest)
    simp [Json.writtenAll?, hjson, hjsons]

omit [DecidableEq τ] in
theorem isSome_echo? (h : ∀ link ∈ body.links, link.toJson.written?.isSome = true) :
    body.echo?.isSome = true := by
  cases body with
  | one link => exact h link (List.mem_singleton.mpr rfl)
  | many links =>
    obtain ⟨jsons, hjsons⟩ := Option.isSome_iff_exists.mp (isSome_writtenAll? h)
    simp only [LinkBody.links] at hjsons
    simp [echo?, answer?, LinkBody.links, Json.written?, hjsons]

omit [DecidableEq τ] in
theorem echo?_singleton (link : ChildLink τ) :
    (many [link]).echo? = (one link).echo?.map fun json => .array [json] := by
  simp only [echo?, answer?, links, List.map_cons, List.map_nil, List.head?_cons, Option.map_some,
    Option.bind_some, Json.written?, Json.writtenAll?]
  cases link.toJson.written? <;> rfl

/-- A list of one object is read just if the object is, and then as a list of its link. -/
theorem ofJson_singleton (fields : List (τ × Json τ)) :
    (∃ link, ofJson (.object fields) = .ok (.one link) ∧
      ofJson (.array [.object fields]) = .ok (.many [link])) ∨
    ∃ issues later, ofJson (.object fields) = .error issues ∧
      ofJson (.array [.object fields]) = .error later := by
  cases hread : ChildLink.ofFields fields with
  | ok link =>
    simp only [ofJson, ChildLink.ofJson, readMany, readAll, hread]
    exact .inl ⟨link, rfl, rfl⟩
  | error issues =>
    simp only [ofJson, ChildLink.ofJson, readMany, readAll, hread]
    exact .inr ⟨_, _, rfl, rfl⟩

end LinkBody

end Multifiling
