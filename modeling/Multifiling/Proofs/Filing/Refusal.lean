import Multifiling.Proofs.Filing.Delete
import Multifiling.Proofs.Filing.Listing

/-!
What filing fails with. On a sound store with tables, a listing fails if its parent or its type
cannot be made out (`list_cases`), a deletion also if there is nothing to remove or a primary
association is asked for (`delete_error_cases`), and a batch of links at the first link that cannot
be made (`createEach_cases_first`), which is a conflict just if that link clashes with what is there
by then (`create_conflict_iff`), and which cannot be told just if its type has a text that is no
string (`create_broken_iff`). What the store itself fails with never comes through.
-/

namespace Multifiling

variable {τ : Type} {s t : Store} {registry : Registry} {e : Failure}

namespace Store

theorem resolve_notFound {given : Option String} (ht : s.hasTables = true)
    (h : s.resolve given = .error e) : e = .nodeNotFound given := by
  rw [resolve_eq] at h
  split at h
  · cases h; rfl
  · rw [if_pos ht] at h
    split at h
    · cases h; rfl
    · cases h

theorem resolve_eq_notFound {given : Option String} (ht : s.hasTables = true)
    (h : ∀ n, s.resolve given ≠ .ok n) : s.resolve given = .error (.nodeNotFound given) := by
  cases hr : s.resolve given with
  | ok n => exact absurd hr (h n)
  | error e => rw [resolve_notFound ht hr]

theorem lookup_notFound {given : Option String} (ht : s.hasTables = true)
    (h : s.lookup given = .error e) : e = .nodeNotFound given := by
  rw [lookup] at h
  split at h
  · simp only [queried, if_pos ht, bind, Except.bind] at h
    split at h
    · cases h; rfl
    · cases h
  · exact resolve_notFound ht h

end Store

namespace Filing
open Store Operation

variable {parent : Node} {parentId : String}

/-! ### Listing -/

/-- Every association can be shown, so that only the parent and the type can be at fault. -/
theorem list_cases (hs : s.Constraints) (ht : s.hasTables = true) (registry : Registry)
    (parentId : String) (assocType : Option String) (includes : List Include)
    (offset limit : Int) :
    ((∀ n, s.lookup (some parentId) ≠ .ok n) ∧
        list s registry parentId assocType includes offset limit =
          .error (.nodeNotFound (some parentId))) ∨
      (∃ n, s.lookup (some parentId) = .ok n) ∧
        ((∃ argument ≠ .brokenType, list s registry parentId assocType includes offset limit =
            .error (.badArgument argument)) ∨
          ∃ page, list s registry parentId assocType includes offset limit = .ok page) := by
  cases hparent : s.lookup (some parentId) with
  | error e =>
    refine .inl ⟨nofun, ?_⟩
    cases lookup_notFound ht hparent
    simp only [list, hparent, bind, Except.bind]
  | ok n =>
    refine .inr ⟨⟨n, rfl⟩, ?_⟩
    cases htype : optionalType registry assocType with
    | error e =>
      obtain ⟨argument, hne, rfl⟩ := optionalType_badArgument htype
      exact .inl ⟨argument, hne, by simp only [list, hparent, htype, bind, Except.bind]⟩
    | ok type =>
      refine .inr ?_
      cases hshown : showAll s registry includes {}
          (window (secondary s n.id type) offset (offset + limit)) with
      | ok views => simp only [list, hparent, htype, hshown, bind, Except.bind]; exact ⟨_, rfl⟩
      | error e =>
        rw [showAll_eq includes (.empty s registry)] at hshown
        obtain ⟨a, ha, he⟩ := mapM_error hshown
        obtain ⟨view, hview⟩ :=
          showOne_ok hs registry includes (mem_secondary.mp (mem_window ha)).1
        rw [hview] at he
        cases he

/-! ### Creating -/

/-- A link to a node other than the parent, with a name, which is linked already by this type or
whose name is taken. -/
def Clashes (s : Store) (parent : Node) (link : ChildLink τ) (type : QName) : Prop :=
  ∃ child name, s.resolve (some link.childId) = .ok child ∧ linkName child = .ok name ∧
    parent.id ≠ child.id ∧
    (s.hasAssociation parent.id child.id type.fullForm = true ∨
      s.hasChildName parent.id type.fullForm name.fullForm = true)

theorem newLink_error_cases {link : ChildLink τ} {type : QName} (ht : s.hasTables = true)
    (h : newLink s parent link type = .error e) :
    e = .nodeNotFound (some link.childId) ∨ (∃ argument, e = .badArgument argument) ∨
      (∃ c, e = .linkConflict c) ∧ Clashes s parent link type := by
  rw [newLink] at h
  split at h
  · next hr => cases h; exact .inl (resolve_notFound ht hr)
  · next child hchild =>
    split at h
    · cases h; exact .inr (.inl ⟨_, rfl⟩)
    · next name hname =>
      split at h
      · cases h; exact .inr (.inl ⟨_, rfl⟩)
      · next hself =>
        split at h
        · next hlink =>
          cases h
          exact .inr (.inr ⟨⟨_, rfl⟩, child, name, hchild, hname, hself, .inl hlink⟩)
        · split at h
          · next htaken =>
            cases h
            exact .inr (.inr ⟨⟨_, rfl⟩, child, name, hchild, hname, hself, .inr htaken⟩)
          · cases h

theorem newLink_of_clashes {link : ChildLink τ} {type : QName} (h : Clashes s parent link type) :
    ∃ c, newLink s parent link type = .error (.linkConflict c) := by
  obtain ⟨child, name, hchild, hname, hself, hclash⟩ := h
  simp only [newLink, hchild, hname, if_neg hself]
  by_cases hlink : s.hasAssociation parent.id child.id type.fullForm = true
  · exact ⟨_, if_pos hlink⟩
  · rw [if_neg hlink, if_pos (hclash.resolve_left hlink)]
    exact ⟨_, rfl⟩

/-- A batch goes on to its first link that cannot be made, and fails as that does. -/
theorem run_createEach_refused {before after : List (ChildLink τ × QName)} {link : ChildLink τ}
    {type : QName} {made : List (ChildLink τ)} (hp : t.HasNode parent.id)
    (hbefore : (createEach parent before).run s = .ok made t)
    (hlink : newLink t parent link type = .error e) :
    (createEach parent (before ++ (link, type) :: after)).run s = .error e t := by
  simp only [run_createEach_append, hbefore, run_createEach_cons, run_createOne_eq link type hp,
    hlink]

theorem createEach_cases_first (items : List (ChildLink τ × QName)) (hp : s.HasNode parent.id) :
    (∃ made t, (createEach parent items).run s = .ok made t) ∨
      ∃ before link type after made t e, items = before ++ (link, type) :: after ∧
        (createEach parent before).run s = .ok made t ∧ Changes [.link] s t ∧
        newLink t parent link type = .error e ∧
        (createEach parent items).run s = .error e t := by
  induction items generalizing s with
  | nil => exact .inl ⟨[], s, rfl⟩
  | cons item rest ih =>
    obtain ⟨link, type⟩ := item
    cases hnew : newLink s parent link type with
    | error e =>
      have hrun : (createEach parent ([] ++ (link, type) :: rest)).run s = .error e s :=
        run_createEach_refused hp rfl hnew
      exact .inr ⟨[], link, type, rest, [], s, e, rfl, rfl, .refl s, hnew, hrun⟩
    | ok a =>
      obtain ⟨ha, hb⟩ := newLink_ok hp hnew
      have hstep : Changes [.link] s (s.addAssociation a) :=
        .single (.link hb.secondary ha) (by simp)
      have hone : (createOne parent link type).run s = .ok link (s.addAssociation a) := by
        rw [run_createOne_eq link type hp, hnew]
      rcases ih (s := s.addAssociation a) hp with ⟨made, t, h⟩ |
        ⟨before, link', type', after, made, t, e, rfl, hbefore, hc, hnew', h⟩
      · exact .inl ⟨link :: made, t, by simp only [run_createEach_cons, hone, h]⟩
      · exact .inr ⟨(link, type) :: before, link', type', after, link :: made, t, e, rfl,
          by simp only [run_createEach_cons, hone, hbefore], hstep.trans hc, hnew',
          by simp only [run_createEach_cons, hone, h]⟩

/-- Parent and types of a batch are made out, and the first link that cannot be made clashes with
what is there after those before it. -/
def FirstClashes [TextForm τ] (s : Store) (registry : Registry) (parentId : String)
    (links : List (ChildLink τ)) : Prop :=
  ∃ parent types before link type after made t, s.resolve (some parentId) = .ok parent ∧
    (links.mapM fun link => requiredType registry link.assocType) = .ok types ∧
    links.zip types = before ++ (link, type) :: after ∧
    (createEach parent before).run s = .ok made t ∧ Clashes t parent link type

theorem create_error_cases [TextForm τ] (ht : s.hasTables = true) {links : List (ChildLink τ)}
    (h : (create registry parentId links).run s = .error e t) :
    (∃ given, e = .nodeNotFound given) ∨ (∃ argument, e = .badArgument argument) ∨
      (∃ c, e = .linkConflict c) ∧ FirstClashes s registry parentId links := by
  rw [run_create] at h
  cases hp : s.resolve (some parentId) with
  | error e' =>
    rw [hp] at h
    cases h
    exact .inl ⟨_, resolve_notFound ht hp⟩
  | ok parent =>
    rw [hp] at h
    simp only at h
    cases htypes : links.mapM fun link => requiredType registry link.assocType with
    | error e' =>
      rw [htypes] at h
      cases h
      obtain ⟨link, -, he⟩ := mapM_error htypes
      exact .inr (.inl (requiredType_badArgument he))
    | ok types =>
      rw [htypes] at h
      simp only at h
      rcases createEach_cases_first (links.zip types) (hasNode_of_mem (resolve_ok hp).1) with
        ⟨made, u, h'⟩ | ⟨before, link, type, after, made, u, e', hsplit, hbefore, hc, hnew, h'⟩
      · rw [h] at h'; cases h'
      · rw [h] at h'
        cases h'
        rcases newLink_error_cases (hc.hasTables.trans ht) hnew with rfl | hargument | ⟨hc, hclash⟩
        · exact .inl ⟨_, rfl⟩
        · exact .inr (.inl hargument)
        · exact .inr (.inr ⟨hc, parent, types, before, link, type, after, made, t, hp, htypes,
            hsplit, hbefore, hclash⟩)

/-- A batch ends in a conflict just if its first link that cannot be made clashes. -/
theorem create_conflict_iff [TextForm τ] (ht : s.hasTables = true) {links : List (ChildLink τ)} :
    (∃ c t, (create registry parentId links).run s = .error (.linkConflict c) t) ↔
      FirstClashes s registry parentId links := by
  constructor
  · rintro ⟨c, t, h⟩
    rcases create_error_cases ht h with ⟨_, h⟩ | ⟨_, h⟩ | ⟨-, h⟩
    · cases h
    · cases h
    · exact h
  · rintro ⟨parent, types, before, link, type, after, made, t, hp, htypes, hsplit, hbefore, hclash⟩
    obtain ⟨c, hc⟩ := newLink_of_clashes hclash
    have hnode : t.HasNode parent.id := by
      have hnode := hasNode_of_mem (resolve_ok hp).1
      rcases createEach_cases before hnode with ⟨e', t', h, -⟩ | ⟨t', h, hc, -⟩
      · rw [hbefore] at h; cases h
      · rw [hbefore] at h
        cases h
        exact hc.hasNode (by decide) hnode
    refine ⟨c, t, ?_⟩
    rw [run_create, hp]
    simp only [htypes, hsplit]
    exact run_createEach_refused hnode hbefore hc

/-- The parent of a batch is made out, and its first link of no known type has a text for it that is
no string. -/
def FirstBroken [TextForm τ] (s : Store) (registry : Registry) (parentId : String)
    (links : List (ChildLink τ)) : Prop :=
  ∃ parent before link text after, s.resolve (some parentId) = .ok parent ∧
    links = before ++ link :: after ∧ (∀ l ∈ before, ∃ q, NamesType registry l.assocType q) ∧
    link.assocType = some text ∧ TextForm.string? text = none

theorem newLink_ne_broken (s : Store) (parent : Node) (link : ChildLink τ) (type : QName) :
    newLink s parent link type ≠ .error (.badArgument .brokenType) := by
  intro h
  rw [newLink] at h
  split at h
  · next hr =>
    cases h
    rcases resolve_error_cases hr with h | h <;> cases h
  · split at h
    · cases h
    · split at h
      · cases h
      · split at h
        · cases h
        · split at h <;> cases h

/-- A batch ends in a refusal that cannot be written just if its first link of no known type has a
text for it that is no string. -/
theorem create_broken_iff [TextForm τ] {links : List (ChildLink τ)} :
    (∃ t, (create registry parentId links).run s = .error (.badArgument .brokenType) t) ↔
      FirstBroken s registry parentId links := by
  have hknown {before : List (ChildLink τ)} :
      (∀ l ∈ before, ∃ q, requiredType registry l.assocType = .ok q) ↔
        ∀ l ∈ before, ∃ q, NamesType registry l.assocType q := by
    simp only [requiredType_ok_iff]
  rw [run_create]
  constructor
  · rintro ⟨t, h⟩
    cases hp : s.resolve (some parentId) with
    | error e =>
      rw [hp] at h
      cases h
      rcases resolve_error_cases hp with h | h <;> cases h
    | ok parent =>
      rw [hp] at h
      simp only at h
      cases htypes : links.mapM fun link => requiredType registry link.assocType with
      | error e =>
        rw [htypes] at h
        cases h
        obtain ⟨before, link, after, hsplit, hbefore, hlink⟩ := mapM_error_first htypes
        obtain ⟨text, htext, hbroken⟩ := requiredType_broken_iff.mp hlink
        exact ⟨parent, before, link, text, after, hp, hsplit, hknown.mp hbefore, htext, hbroken⟩
      | ok types =>
        rw [htypes] at h
        simp only at h
        rcases createEach_cases_first (links.zip types) (hasNode_of_mem (resolve_ok hp).1) with
          ⟨made, u, h'⟩ | ⟨_, link, type, _, _, u, e, -, -, -, hnew, h'⟩
        · cases h.symm.trans h'
        · cases h.symm.trans h'
          exact absurd hnew (newLink_ne_broken _ _ _ _)
  · rintro ⟨parent, before, link, text, after, hp, rfl, hbefore, htext, hbroken⟩
    have hlink : requiredType registry link.assocType = .error (.badArgument .brokenType) :=
      requiredType_broken_iff.mpr ⟨text, htext, hbroken⟩
    rw [hp]
    simp only [mapM_of_error_first (hknown.mpr hbefore) hlink]
    exact ⟨s, rfl⟩

/-! ### Deleting -/

/-- Parent and child are made out, and the type where one is given, but no secondary association
leads from one to the other, nor is a primary one asked for by its type. -/
def NothingToRemove (s : Store) (registry : Registry) (parentId childId : String)
    (assocType : Option String) : Prop :=
  ∃ parent child type, s.resolve (some parentId) = .ok parent ∧
    s.resolve (some childId) = .ok child ∧ optionalType registry assocType = .ok type ∧
    (∀ a ∈ s.associations, a.leads parent.id child.id type = true → a.isPrimary = true) ∧
    (type.isSome = true →
      ∀ a ∈ s.associations, a.leads parent.id child.id type = true → a.isPrimary = false)

theorem delete_error_cases (hs : s.Sound) (ht : s.hasTables = true) {childId : String}
    {assocType : Option String}
    (h : (delete registry parentId childId assocType).run s = .error e t) :
    (e = .nodeNotFound (some parentId) ∧ ∀ n, s.resolve (some parentId) ≠ .ok n) ∨
      (e = .nodeNotFound (some childId) ∧ ∀ n, s.resolve (some childId) ≠ .ok n) ∨
      (e = .associationNotFound parentId assocType childId ∧
        NothingToRemove s registry parentId childId assocType) ∨
      (∃ argument ≠ .brokenType, e = .badArgument argument) := by
  rw [run_delete_eq hs.keyed hs.constraints] at h
  cases hp : s.resolve (some parentId) with
  | error e' =>
    rw [hp] at h
    cases h
    exact .inl ⟨resolve_notFound ht hp, nofun⟩
  | ok parent =>
    cases hc : s.resolve (some childId) with
    | error e' =>
      rw [hp, hc] at h
      cases h
      exact .inr (.inl ⟨resolve_notFound ht hc, nofun⟩)
    | ok child =>
      cases htype : optionalType registry assocType with
      | error e' =>
        rw [hp, hc, htype] at h
        cases h
        exact .inr (.inr (.inr (optionalType_badArgument htype)))
      | ok type =>
        rw [hp, hc, htype] at h
        simp only at h
        split at h
        · cases h
          exact .inr (.inr (.inr ⟨_, BadArgument.noConfusion, rfl⟩))
        · next hprimary =>
          split at h
          · cases h
          · next hsecondary =>
            cases h
            refine .inr (.inr (.inl ⟨rfl, parent, child, type, hp, hc, htype, ?_, ?_⟩))
            · intro a ha hl
              by_contra hp
              exact hsecondary (any_leads_iff.mpr ⟨a, ha, hl, by simpa using hp⟩)
            · intro hsome a ha hl
              by_contra hp
              refine hprimary (Bool.and_eq_true_iff.mpr ⟨hsome, any_leads_iff.mpr ⟨a, ha, hl, ?_⟩⟩)
              simpa using hp

theorem run_delete_lost (ht : s.hasTables = true) (registry : Registry) {childId : String}
    (assocType : Option String)
    (h : (∀ n, s.resolve (some parentId) ≠ .ok n) ∨ ∀ n, s.resolve (some childId) ≠ .ok n) :
    ∃ given, (delete registry parentId childId assocType).run s =
      .error (.nodeNotFound given) s := by
  rw [run_delete]
  cases hp : s.resolve (some parentId) with
  | error e => exact ⟨_, by rw [resolve_notFound ht hp]⟩
  | ok parent =>
    rw [resolve_eq_notFound ht (h.resolve_left fun hnone => hnone parent hp)]
    exact ⟨_, rfl⟩

/-- Where there is nothing to remove, that is what a deletion fails with. -/
theorem run_delete_nothing (hk : s.Keyed) (hs : s.Constraints) {childId : String}
    {assocType : Option String}
    (h : NothingToRemove s registry parentId childId assocType) :
    (delete registry parentId childId assocType).run s =
      .error (.associationNotFound parentId assocType childId) s := by
  obtain ⟨parent, child, type, hp, hc, htype, hsecondary, hprimary⟩ := h
  have hfound : ¬(s.associations.any fun a =>
      a.leads parent.id child.id type && !a.isPrimary) = true := by
    rw [any_leads_iff]
    rintro ⟨a, ha, hl, hp⟩
    rw [hsecondary a ha hl] at hp
    cases hp
  rw [run_delete_eq hk hs, hp, hc, htype]
  simp only [if_neg (not_refused hprimary), if_neg hfound]

end Filing

end Multifiling
