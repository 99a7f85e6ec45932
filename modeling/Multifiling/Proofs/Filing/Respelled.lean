import Multifiling.Proofs.Filing.Delete
import Multifiling.Proofs.Session.Ordinary
import Multifiling.Proofs.Uuid

/-!
Identifiers written otherwise. An identifier is read from many texts, and it does not matter which
of them a caller uses: the same nodes are found, and listing, creating and deleting do the same and
end alike. Only the texts that a failure or an answer repeats are those that were given
(`spellings_alike`).
-/

namespace Multifiling
open Store

/-- Texts for which it makes no difference which of them is given: they are the same, or spell the
same identifier. -/
inductive Uuid.Respelled : String → String → Prop where
  | same (text : String) : Respelled text text
  | spelled {a b : String} {u : Uuid} (ha : parse? a = some u) (hb : parse? b = some u) :
    Respelled a b

/-- Failures that differ at most in how they spell the identifiers that they were given. -/
inductive Failure.Respelled : Failure → Failure → Prop where
  | same (e : Failure) : Respelled e e
  | nodeNotFound {a b : String} (h : Uuid.Respelled a b) :
    Respelled (.nodeNotFound (some a)) (.nodeNotFound (some b))
  | associationNotFound {parent parent' child child' : String} (type : Option String)
    (hparent : Uuid.Respelled parent parent') (hchild : Uuid.Respelled child child') :
    Respelled (.associationNotFound parent type child) (.associationNotFound parent' type child')
  | deletesPrimary {parent parent' child child' : String} (type : String)
    (hparent : Uuid.Respelled parent parent') (hchild : Uuid.Respelled child child') :
    Respelled (.badArgument (.deletesPrimary parent type child))
      (.badArgument (.deletesPrimary parent' type child'))

/-- Links that differ at most in how they spell the child. -/
structure ChildLink.Respelled (link link' : ChildLink) : Prop where
  childId : Uuid.Respelled link.childId link'.childId
  assocType : link'.assocType = link.assocType
  isPrimary : link'.isPrimary = link.isPrimary

variable {α β γ δ : Type} {R : α → β → Prop} {Q : γ → δ → Prop}

/-- Readings that find the same, as far as `R` tells, or fail alike. -/
inductive Respelled (R : α → β → Prop) : Except Failure α → Except Failure β → Prop where
  | ok {a : α} {b : β} (h : R a b) : Respelled R (.ok a) (.ok b)
  | error {e e' : Failure} (h : e.Respelled e') : Respelled R (.error e) (.error e')

namespace Respelled

theorem refl (r : Except Failure α) : Respelled Eq r r := by
  cases r with
  | ok a => exact .ok rfl
  | error e => exact .error (.same e)

theorem bind {r : Except Failure α} {r' : Except Failure β} {f : α → Except Failure γ}
    {g : β → Except Failure δ} (h : Respelled R r r')
    (hfg : ∀ a b, R a b → Respelled Q (f a) (g b)) : Respelled Q (r >>= f) (r' >>= g) := by
  cases h with
  | ok h => exact hfg _ _ h
  | error h => exact .error h

end Respelled

namespace Operation

/-- Outcomes on the same rows: the results are the same, as far as `R` tells, or both fail alike. -/
inductive Ends (R : α → β → Prop) :
    EStateM.Result Failure Store α → EStateM.Result Failure Store β → Prop where
  | ok {a : α} {b : β} (h : R a b) (s : Store) : Ends R (.ok a s) (.ok b s)
  | error {e e' : Failure} (h : e.Respelled e') (s : Store) : Ends R (.error e s) (.error e' s)

theorem Ends.eq_ok {r : EStateM.Result Failure Store α} {a : α} {t : Store}
    (h : Ends Eq r (.ok a t)) : r = .ok a t := by
  cases h with
  | ok h => rw [h]

/-- Operations that do the same to any rows and end alike. -/
def Respelled (R : α → β → Prop) (x : Operation α) (y : Operation β) : Prop :=
  ∀ s, Ends R (x.run s) (y.run s)

namespace Respelled

theorem refl (x : Operation α) : Respelled Eq x x := by
  intro s
  cases x.run s with
  | ok a t => exact .ok rfl t
  | error e t => exact .error (.same e) t

theorem pure {a : α} {b : β} (h : R a b) : Respelled R (pure a) (pure b) := fun s => .ok h s

theorem fail {e e' : Failure} (h : e.Respelled e') :
    Respelled R (throw e : Operation α) (throw e' : Operation β) :=
  fun s => .error h s

theorem read {f : Store → Except Failure α} {g : Store → Except Failure β}
    (h : ∀ s, Multifiling.Respelled R (f s) (g s)) : Respelled R (read f) (read g) := by
  intro s
  rw [run_read, run_read]
  have hs := h s
  generalize f s = r at hs ⊢
  generalize g s = r' at hs ⊢
  cases hs with
  | ok h => exact .ok h s
  | error h => exact .error h s

theorem bind {x : Operation α} {y : Operation β} {f : α → Operation γ} {g : β → Operation δ}
    (hxy : Respelled R x y) (hfg : ∀ a b, R a b → Respelled Q (f a) (g b)) :
    Respelled Q (x >>= f) (y >>= g) := by
  intro s
  rw [EStateM.run_bind, EStateM.run_bind]
  have hs := hxy s
  generalize x.run s = r at hs ⊢
  generalize y.run s = r' at hs ⊢
  cases hs with
  | ok h t => exact hfg _ _ h t
  | error h t => exact .error h t

end Respelled

end Operation

/-! ### Looking up -/

namespace Store

variable {a b : String}

theorem ne_rootAlias {u : Uuid} (h : Uuid.parse? a = some u) : a ≠ rootAlias := by
  rintro rfl
  rw [parse?_rootAlias] at h
  cases h

theorem resolve_respelled (h : Uuid.Respelled a b) (s : Store) :
    Respelled Eq (s.resolve (some a)) (s.resolve (some b)) := by
  cases h with
  | same => exact .refl _
  | @spelled _ u ha hb =>
    rw [resolve_eq, resolve_eq, Option.bind_some, Option.bind_some, ha, hb]
    cases s.hasTables with
    | false => exact .error (.same _)
    | true =>
      simp only [if_true]
      cases s.node? u with
      | none => exact .error (.nodeNotFound (.spelled ha hb))
      | some n => exact .ok rfl

theorem lookup_respelled (h : Uuid.Respelled a b) (s : Store) :
    Respelled Eq (s.lookup (some a)) (s.lookup (some b)) := by
  cases h with
  | same => exact .refl _
  | spelled ha hb =>
    rw [lookup, lookup, if_neg (by simpa using ne_rootAlias ha),
      if_neg (by simpa using ne_rootAlias hb)]
    exact resolve_respelled (.spelled ha hb) s

end Store

namespace Filing
open Operation

variable {registry : Registry} {parent : Node} {parentId parentId' childId childId' : String}

/-! ### Listing -/

theorem list_respelled (h : Uuid.Respelled parentId parentId') (s : Store) (registry : Registry)
    (assocType : Option String) (includes : List Include) (offset limit : Int) :
    Respelled Eq (list s registry parentId assocType includes offset limit)
      (list s registry parentId' assocType includes offset limit) := by
  refine (lookup_respelled h s).bind ?_
  rintro parent _ rfl
  exact .refl _

/-! ### Creating -/

theorem createOne_respelled {link link' : ChildLink} (h : link.Respelled link') (parent : Node)
    (type : QName) :
    Operation.Respelled ChildLink.Respelled (createOne parent link type)
      (createOne parent link' type) := by
  intro s
  rw [run_createOne, run_createOne]
  have hr := resolve_respelled h.childId s
  generalize s.resolve (some link.childId) = r at hr ⊢
  generalize s.resolve (some link'.childId) = r' at hr ⊢
  cases hr with
  | error he => exact .error he s
  | @ok child _ hchild =>
    subst hchild
    simp only
    cases linkName child with
    | error e => exact .error (.same _) s
    | ok name =>
      simp only
      cases (addChild parent child type name false).run s with
      | ok a t => exact .ok h t
      | error e t => exact .error (.same _) t

/-- Links with their types read, where the types are the same. -/
def SameItem (item item' : ChildLink × QName) : Prop :=
  item.1.Respelled item'.1 ∧ item.2 = item'.2

theorem createEach_respelled {items items' : List (ChildLink × QName)}
    (h : List.Forall₂ SameItem items items') (parent : Node) :
    Operation.Respelled (List.Forall₂ ChildLink.Respelled) (createEach parent items)
      (createEach parent items') := by
  induction h with
  | nil => exact .pure .nil
  | @cons item item' rest rest' hitem _ ih =>
    obtain ⟨link, type⟩ := item
    obtain ⟨link', type'⟩ := item'
    obtain ⟨hlink, rfl⟩ := hitem
    refine (createOne_respelled hlink parent type).bind fun first first' hfirst => ?_
    exact ih.bind fun later later' hlater => .pure (.cons hfirst hlater)

variable {links links' : List ChildLink}

theorem mapM_types (h : List.Forall₂ ChildLink.Respelled links links') :
    (links'.mapM fun link => requiredType registry link.assocType) =
      links.mapM fun link => requiredType registry link.assocType := by
  induction h with
  | nil => rfl
  | cons hlink _ ih => rw [List.mapM_cons, List.mapM_cons, hlink.assocType, ih]

theorem sameItem_zip (h : List.Forall₂ ChildLink.Respelled links links') (types : List QName) :
    List.Forall₂ SameItem (links.zip types) (links'.zip types) := by
  induction h generalizing types with
  | nil => exact .nil
  | cons hlink _ ih =>
    cases types with
    | nil => exact .nil
    | cons type types => exact .cons ⟨hlink, rfl⟩ (ih types)

theorem create_respelled (registry : Registry) (hp : Uuid.Respelled parentId parentId')
    (h : List.Forall₂ ChildLink.Respelled links links') :
    Operation.Respelled (List.Forall₂ ChildLink.Respelled) (create registry parentId links)
      (create registry parentId' links') := by
  refine (Operation.Respelled.read (resolve_respelled hp)).bind ?_
  rintro parent _ rfl
  rw [mapM_types h]
  refine (Operation.Respelled.refl _).bind ?_
  rintro types _ rfl
  exact createEach_respelled (sameItem_zip h types) parent

/-! ### Deleting -/

/-- Going through associations shows how a refusal is worded only where it ends in one. -/
theorem deleteEach_respelled {refused refused' : Failure} (h : refused.Respelled refused')
    (child : Uuid) (type : Option QName) (found : Bool) (associations : List Association) :
    Operation.Respelled Eq (deleteEach refused child type found associations)
      (deleteEach refused' child type found associations) := by
  induction associations generalizing found with
  | nil => exact .refl _
  | cons a rest ih =>
    intro s
    rw [run_deleteEach_cons, run_deleteEach_cons]
    split
    · split
      · split
        · exact .error h s
        · exact ih found s
      · exact ih _ _
    · exact ih found s

theorem delete_respelled (registry : Registry) (hp : Uuid.Respelled parentId parentId')
    (hc : Uuid.Respelled childId childId') (assocType : Option String) :
    Operation.Respelled Eq (delete registry parentId childId assocType)
      (delete registry parentId' childId' assocType) := by
  refine (Operation.Respelled.read (resolve_respelled hp)).bind ?_
  rintro parent _ rfl
  refine (Operation.Respelled.read (resolve_respelled hc)).bind ?_
  rintro child _ rfl
  refine (Operation.Respelled.refl _).bind ?_
  rintro type _ rfl
  refine (Operation.Respelled.refl _).bind ?_
  rintro s _ rfl
  refine (deleteEach_respelled (.deletesPrimary _ hp hc) child.id type false _).bind ?_
  rintro found _ rfl
  cases found with
  | true => exact .refl _
  | false => exact .fail (.associationNotFound assocType hp hc)

/-! ### All spellings -/

/-- It makes no difference how an identifier is written. One of 128 bits is read from its canonical
text and from its other forms. Whatever is read has 128 bits and is read from its canonical text as
well, and what is not read names no node. Looking up, listing, creating and deleting do the same for
any two spellings of the same identifiers. -/
theorem spellings_alike :
    (∀ u : Uuid, u.value < 2 ^ 128 → ∀ form ∈ u.forms, readId (some form) = .ok u) ∧
    (∀ text u, readId (some text) = .ok u → u.value < 2 ^ 128 ∧ readId (some u.text) = .ok u) ∧
    (∀ given e, readId given = .error e → e = .nodeNotFound given ∧
      ∀ s : Store, s.resolve given = .error e ∧
        (given ≠ some rootAlias → s.lookup given = .error e)) ∧
    ∀ parentId parentId', Uuid.Respelled parentId parentId' →
      (∀ s : Store, Respelled Eq (s.resolve (some parentId)) (s.resolve (some parentId'))) ∧
      (∀ s : Store, Respelled Eq (s.lookup (some parentId)) (s.lookup (some parentId'))) ∧
      (∀ s registry assocType includes offset limit,
        Respelled Eq (list s registry parentId assocType includes offset limit)
          (list s registry parentId' assocType includes offset limit)) ∧
      (∀ registry links links', List.Forall₂ ChildLink.Respelled links links' →
        Operation.Respelled (List.Forall₂ ChildLink.Respelled) (create registry parentId links)
          (create registry parentId' links')) ∧
      ∀ registry childId childId' assocType, Uuid.Respelled childId childId' →
        Operation.Respelled Eq (delete registry parentId childId assocType)
          (delete registry parentId' childId' assocType) := by
  refine ⟨fun u hu form hform => ?_, fun text u h => ?_, fun given e h => ?_,
    fun parentId parentId' hp => ⟨resolve_respelled hp, lookup_respelled hp, list_respelled hp,
      fun registry _ _ => create_respelled registry hp,
      fun registry _ _ assocType hc => delete_respelled registry hp hc assocType⟩⟩
  · exact readId_eq_ok.mpr (Uuid.parse?_forms hu form hform)
  · have hu := Uuid.parse?_lt (readId_eq_ok.mp h)
    exact ⟨hu, readId_eq_ok.mpr (Uuid.parse?_text hu)⟩
  · have hresolve (s : Store) : s.resolve given = .error e := by
      rw [resolve, h]
      rfl
    refine ⟨readId_error h, fun s => ⟨hresolve s, fun hne => ?_⟩⟩
    rw [lookup, if_neg hne, hresolve]

/-- A document is taken out of a folder under other spellings of both, one with a base mark. -/
theorem spellings_alike_filedTwice :
    readId (some "\x7b00000002-0000-7000-8000-000000000003\x7d") = .ok (.ofNode 3) ∧
    ∃ t, (delete plainRegistry "urn:uuid:00000002-0000-7000-8000-000000000002"
        "0x000002000070008000000000000003" (some "cm:contains")).run filedTwice.current = .ok () t ∧
      t.associations.length = 4 := by
  obtain ⟨hforms, -, -, halike⟩ := spellings_alike
  refine ⟨hforms (.ofNode 3) (by decide) _ (by decide +kernel), ?_⟩
  have hparent : Uuid.Respelled "urn:uuid:00000002-0000-7000-8000-000000000002"
      (Uuid.ofNode 2).text :=
    .spelled (u := .ofNode 2) (by decide +kernel) (by decide +kernel)
  have hchild : Uuid.Respelled "0x000002000070008000000000000003" (Uuid.ofNode 3).text :=
    .spelled (u := .ofNode 3) (by decide +kernel) (by decide +kernel)
  obtain ⟨-, -, -, -, hdelete⟩ := halike _ _ hparent
  have hends := hdelete plainRegistry _ _ (some "cm:contains") hchild filedTwice.current
  have hsucceeds : (delete plainRegistry (Uuid.ofNode 2).text (Uuid.ofNode 3).text
      (some "cm:contains")).succeeds filedTwice.current = true := by decide +kernel
  obtain ⟨_, hcanonical⟩ := run_of_succeeds hsucceeds
  rw [hcanonical] at hends
  exact ⟨_, hends.eq_ok, by decide +kernel⟩

end Filing

end Multifiling
