import Multifiling.Proofs.Filing.Refusal
import Multifiling.Proofs.Session.Ordinary

/-!
How a deletion ends, as a relation. `Deletion` says for each outcome what the rows before must be and
which rows are left; it speaks of single associations and leaves open in which order they are gone
through. Where the constraints hold, this is what `Filing.delete` does (`delete_closed`), so that
just one of its cases applies.
-/

namespace Multifiling.Filing
open Store Operation

/-- How a deletion ends. Only the last two cases change rows: of the type that was asked for there is
one association, and where no type was asked for all secondary ones go. -/
inductive Deletion (s : Store) (registry : Registry) (parentId childId : String) :
    Option String → EStateM.Result Failure Store Unit → Prop where
  | noParent {given : Option String} (hp : ∀ n, ¬s.Names parentId n) :
    Deletion s registry parentId childId given (.error (.nodeNotFound (some parentId)) s)
  | noChild {given : Option String} {parent : Node} (hp : s.Names parentId parent)
    (hc : ∀ n, ¬s.Names childId n) :
    Deletion s registry parentId childId given (.error (.nodeNotFound (some childId)) s)
  | misnamed {given : Option String} {parent child : Node} {argument : BadArgument}
    (hp : s.Names parentId parent) (hc : s.Names childId child)
    (ht : Misnames registry given argument) :
    Deletion s registry parentId childId given (.error (.badArgument argument) s)
  | primary {text : String} {parent child : Node} {q : QName} {a : Association}
    (hp : s.Names parentId parent) (hc : s.Names childId child)
    (ht : NamesType registry (some text) q) (ha : a ∈ s.associations)
    (hl : a.leads parent.id child.id (some q) = true) (h : a.isPrimary = true) :
    Deletion s registry parentId childId (some text)
      (.error (.badArgument (.deletesPrimary parentId text childId)) s)
  | nothing {given : Option String} {parent child : Node} {type : Option QName}
    (hp : s.Names parentId parent) (hc : s.Names childId child) (ht : Selects registry given type)
    (h : ∀ a ∈ s.associations, a.leads parent.id child.id type = true →
      a.isPrimary = true ∧ type = none) :
    Deletion s registry parentId childId given
      (.error (.associationNotFound parentId given childId) s)
  | one {text : String} {parent child : Node} {q : QName} {a : Association}
    {before after : List Association} (hp : s.Names parentId parent) (hc : s.Names childId child)
    (ht : NamesType registry (some text) q) (hsplit : s.associations = before ++ a :: after)
    (hl : a.leads parent.id child.id (some q) = true) (h : a.isPrimary = false) :
    Deletion s registry parentId childId (some text)
      (.ok () { s with associations := before ++ after })
  | all {given : Option String} {parent child : Node} {a : Association}
    (hp : s.Names parentId parent) (hc : s.Names childId child) (ht : Selects registry given none)
    (ha : a ∈ s.associations) (hl : a.leads parent.id child.id none = true)
    (h : a.isPrimary = false) :
    Deletion s registry parentId childId given
      (.ok () { s with associations := s.associations.filter fun b =>
        !(b.leads parent.id child.id none && !b.isPrimary) })

namespace Deletion

variable {s : Store} {registry : Registry} {parentId childId : String} {given : Option String}
  {r : EStateM.Result Failure Store Unit}

/-- Nothing changes unless a deletion succeeds. -/
theorem unchanged {e : Failure} {t : Store}
    (h : Deletion s registry parentId childId given (.error e t)) : t = s := by
  cases h <;> rfl

/-- In each case the deletion ends as that case says. -/
theorem run_eq (h : Deletion s registry parentId childId given r) (hk : s.Keyed)
    (hs : s.Constraints) (htables : s.hasTables = true) :
    (delete registry parentId childId given).run s = r := by
  cases h with
  | noParent hp =>
    rw [run_delete, resolve_eq_notFound htables fun n h => hp n (resolve_ok_iff.mp h)]
  | noChild hp hc =>
    rw [run_delete, resolve_ok_iff.mpr hp,
      resolve_eq_notFound htables fun n h => hc n (resolve_ok_iff.mp h)]
  | misnamed hp hc ht =>
    rw [run_delete, resolve_ok_iff.mpr hp, resolve_ok_iff.mpr hc, optionalType_of_misnames ht]
  | primary hp hc ht ha hl h =>
    exact run_delete_refused hk hs (resolve_ok_iff.mpr hp) (resolve_ok_iff.mpr hc)
      (optionalType_ok_iff.mpr (.typed ht)) rfl ⟨_, ha, hl, h⟩
  | nothing hp hc ht h =>
    exact run_delete_nothing hk hs ⟨_, _, _, resolve_ok_iff.mpr hp, resolve_ok_iff.mpr hc,
      optionalType_ok_iff.mpr ht, fun a ha hl => (h a ha hl).1, fun hsome a ha hl => by
        rw [(h a ha hl).2] at hsome
        cases hsome⟩
  | @one text parent child q a before after hp hc ht hsplit hl h =>
    simp only [Association.leads, Bool.and_eq_true, decide_eq_true_eq, Option.all_some] at hl
    obtain ⟨⟨hparent, hchild⟩, htype⟩ := hl
    refine run_delete_link hk hs ⟨?_, ?_, ?_⟩ hsplit h
    · rw [resolve_ok_iff.mpr hp, hparent]; rfl
    · rw [resolve_ok_iff.mpr hc, hchild]; rfl
    · rw [requiredType_ok_iff.mpr ht, htype]; rfl
  | all hp hc ht ha hl h =>
    exact run_delete_removes hk hs (resolve_ok_iff.mpr hp) (resolve_ok_iff.mpr hc)
      (optionalType_ok_iff.mpr ht) (fun htype => by cases htype) ⟨_, ha, hl, h⟩

/-- One of the cases applies. -/
theorem exists_of (s : Store) (registry : Registry) (parentId childId : String)
    (given : Option String) : ∃ r, Deletion s registry parentId childId given r := by
  by_cases hp : ∃ parent, s.Names parentId parent
  case neg => exact ⟨_, .noParent fun n hn => hp ⟨n, hn⟩⟩
  obtain ⟨parent, hp⟩ := hp
  by_cases hc : ∃ child, s.Names childId child
  case neg => exact ⟨_, .noChild hp fun n hn => hc ⟨n, hn⟩⟩
  obtain ⟨child, hc⟩ := hc
  obtain ⟨type, ht⟩ | ⟨argument, ht⟩ := selects_or_misnames registry given
  case inr => exact ⟨_, .misnamed hp hc ht⟩
  by_cases hnone : ∀ a ∈ s.associations, a.leads parent.id child.id type = true →
      a.isPrimary = true ∧ type = none
  case pos => exact ⟨_, .nothing hp hc ht hnone⟩
  simp only [not_forall] at hnone
  obtain ⟨a, ha, hl, hnot⟩ := hnone
  cases ht with
  | absent => exact ⟨_, .all hp hc .absent ha hl (by simpa using hnot)⟩
  | blank hb => exact ⟨_, .all hp hc (.blank hb) ha hl (by simpa using hnot)⟩
  | typed ht =>
    obtain ⟨text, htext, -⟩ := ht.resolved
    rw [bind_string?] at htext
    cases htext
    cases h : a.isPrimary with
    | true => exact ⟨_, .primary hp hc ht ha hl h⟩
    | false =>
      obtain ⟨before, after, hsplit⟩ := List.append_of_mem ha
      exact ⟨_, .one hp hc ht hsplit hl h⟩

theorem run_eq_iff (hk : s.Keyed) (hs : s.Constraints) (htables : s.hasTables = true) :
    (delete registry parentId childId given).run s = r ↔
      Deletion s registry parentId childId given r := by
  constructor
  · rintro rfl
    obtain ⟨r, h⟩ := exists_of s registry parentId childId given
    rwa [h.run_eq hk hs htables]
  · intro h
    exact h.run_eq hk hs htables

end Deletion

/-- Deleting in closed form: it ends as `Deletion` says and in no other way, and a deletion that
fails has changed nothing. -/
theorem delete_closed {s : Store} (hk : s.Keyed) (hs : s.Constraints) (ht : s.hasTables = true)
    (registry : Registry) (parentId childId : String) (given : Option String) :
    (∀ r, (delete registry parentId childId given).run s = r ↔
      Deletion s registry parentId childId given r) ∧
    ∀ e t, (delete registry parentId childId given).run s = .error e t → t = s := by
  constructor
  · intro r
    exact Deletion.run_eq_iff hk hs ht
  · intro e t h
    exact ((Deletion.run_eq_iff hk hs ht).mp h).unchanged

/-- A document that is filed twice: its link in the second folder goes, and its place in the first
is refused. -/
theorem delete_closed_filedTwice :
    (∃ before after, filedTwice.current.associations = before ++ firstLink :: after ∧
      (delete plainRegistry (Uuid.ofNode 2).text (Uuid.ofNode 3).text (some "cm:contains")).run
          filedTwice.current =
        .ok () { filedTwice.current with associations := before ++ after }) ∧
      (delete plainRegistry (Uuid.ofNode 1).text (Uuid.ofNode 3).text (some "cm:contains")).run
          filedTwice.current =
        .error (.badArgument (.deletesPrimary (Uuid.ofNode 1).text "cm:contains"
          (Uuid.ofNode 3).text)) filedTwice.current := by
  have hs : filedTwice.current.Sound := filedTwice_ordinary.sound.current
  have htables : filedTwice.current.hasTables = true := by decide +kernel
  have hends (parentId : String) := (delete_closed hs.keyed hs.constraints htables plainRegistry
    parentId (Uuid.ofNode 3).text (some "cm:contains")).1
  have hnode (k : Nat)
      (hk : (filedTwice.current.resolve (some (Uuid.ofNode k).text)).map (·.id) = .ok (.ofNode k)) :
      ∃ n, filedTwice.current.Names (Uuid.ofNode k).text n ∧ n.id = .ofNode k := by
    obtain ⟨n, hn, hid⟩ := map_eq_ok.mp hk
    exact ⟨n, resolve_ok_iff.mp hn, hid⟩
  obtain ⟨root, hroot, hrootId⟩ := hnode 1 (by decide +kernel)
  obtain ⟨inbox, hinbox, hinboxId⟩ := hnode 2 (by decide +kernel)
  obtain ⟨document, hdocument, hdocumentId⟩ := hnode 3 (by decide +kernel)
  constructor
  · have hmem : firstLink ∈ filedTwice.current.associations := by decide +kernel
    obtain ⟨before, after, hsplit⟩ := List.append_of_mem hmem
    refine ⟨before, after, hsplit, (hends _ _).mpr ?_⟩
    refine .one hinbox hdocument namesType_contains hsplit ?_ rfl
    rw [hinboxId, hdocumentId]
    decide
  · obtain ⟨a, ha, hl, hp⟩ : ∃ a ∈ filedTwice.current.associations,
        a.leads (.ofNode 1) (.ofNode 3) (some ContentModel.contains) = true ∧
          a.isPrimary = true := by decide +kernel
    refine (hends _ _).mpr (.primary hroot hdocument namesType_contains ha ?_ hp)
    rw [hrootId, hdocumentId]
    exact hl

end Multifiling.Filing
