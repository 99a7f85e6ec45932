import Multifiling.Filing
import Multifiling.Proofs.Operation.Change
import Multifiling.Proofs.Store.Lookup

/-!
What becomes of one link. `newLink` reads off the rows which association a link is to become under
a parent, or why it cannot become one. Making the link adds just that association, or fails for just
that reason without any change (`run_createOne_eq`).
-/

namespace Multifiling.Filing
open Store Operation

variable {τ : Type} {s t : Store} {parent : Node}

/-- A conflict that a caller's link has run into. -/
def linkFailure : Failure → Failure
  | .conflict c => .linkConflict c
  | e => e

/-- The name under which a node is linked to its parents. -/
def linkName (n : Node) : Except QNameError QName :=
  (localNameFor (some n.name)).bind contentName

theorem run_createOne (parent : Node) (link : ChildLink τ) (type : QName) (s : Store) :
    (createOne parent link type).run s =
      match s.resolve (some link.childId) with
      | .error e => .error e s
      | .ok child =>
        match linkName child with
        | .error e => .error (.badArgument (.childName child.id e)) s
        | .ok name =>
          match (addChild parent child type name false).run s with
          | .ok _ t => .ok link t
          | .error e t => .error (linkFailure e) t := by
  rw [createOne, run_read_bind]
  cases s.resolve (some link.childId) with
  | error e => rfl
  | ok child =>
    simp only [linkName]
    cases (localNameFor (some child.name)).bind contentName with
    | error e => rfl
    | ok name =>
      simp only [EStateM.run_bind, run_tryCatch]
      cases (addChild parent child type name false).run s with
      | ok a t => rfl
      | error e t => cases e <;> rfl

/-- The association that a link is to become under a parent, or why it cannot become one. -/
def newLink (s : Store) (parent : Node) (link : ChildLink τ) (type : QName) :
    Except Failure Association :=
  match s.resolve (some link.childId) with
  | .error e => .error e
  | .ok child =>
    match linkName child with
    | .error e => .error (.badArgument (.childName child.id e))
    | .ok name =>
      if parent.id = child.id then .error (.badArgument (.ownChild child.id))
      else if s.hasAssociation parent.id child.id type.fullForm then
        .error (.linkConflict (.association parent.id child.id type.fullForm))
      else if s.hasChildName parent.id type.fullForm name.fullForm then
        .error (.linkConflict (.childName parent.id type.fullForm name.localName))
      else .ok (s.nextAssociation parent.id child.id type.fullForm name.fullForm false)

/-- A link has become an association: a secondary one from the parent, of the type that was read,
to the child that the link names, and under that child's name. -/
structure Became (s : Store) (parent : Node) (item : ChildLink τ × QName) (a : Association) :
    Prop where
  parent_eq : a.parent = parent.id
  type_eq : a.type = item.2.fullForm
  secondary : a.isPrimary = false
  child : ∃ child, s.resolve (some item.1.childId) = .ok child ∧ a.child = child.id ∧
    ∃ name, linkName child = .ok name ∧ a.name = name.fullForm

theorem newLink_ok {link : ChildLink τ} {type : QName} {a : Association}
    (hp : s.HasNode parent.id) (h : newLink s parent link type = .ok a) :
    s.Accepts a ∧ Became s parent (link, type) a := by
  rw [newLink] at h
  split at h
  · cases h
  · next child hchild =>
    split at h
    · cases h
    · next name hname =>
      split at h
      · cases h
      · next hself =>
        split at h
        · cases h
        · next hlink =>
          split at h
          · cases h
          · next htaken =>
            cases h
            have hc := hasNode_of_mem (resolve_ok hchild).1
            exact ⟨accepts_of_checks hself hlink htaken hp hc, rfl, rfl, rfl, child, hchild, rfl,
              name, hname, rfl⟩

/-- What the rows have against a new link undoes no work. -/
theorem newLink_error {link : ChildLink τ} {type : QName} {e : Failure}
    (h : newLink s parent link type = .error e) : e.undoesWork = false := by
  rw [newLink] at h
  split at h
  · next hr => cases h; exact resolve_error hr
  · split at h
    · cases h; rfl
    · split at h
      · cases h; rfl
      · split at h
        · cases h; rfl
        · split at h
          · cases h; rfl
          · cases h

theorem run_createOne_eq (link : ChildLink τ) (type : QName) (hp : s.HasNode parent.id) :
    (createOne parent link type).run s =
      match newLink s parent link type with
      | .error e => .error e s
      | .ok a => .ok link (s.addAssociation a) := by
  have hok (a : Association) (h : newLink s parent link type = .ok a) := (newLink_ok hp h).1
  rw [run_createOne]
  rw [newLink] at hok ⊢
  cases hchild : s.resolve (some link.childId) with
  | error e => rfl
  | ok child =>
    rw [hchild] at hok
    simp only at hok ⊢
    cases hname : linkName child with
    | error e => rfl
    | ok name =>
      rw [hname] at hok
      simp only at hok ⊢
      rw [run_addChild]
      by_cases hself : parent.id = child.id
      · simp only [if_pos hself]
        rfl
      by_cases hlink : s.hasAssociation parent.id child.id type.fullForm
      · simp only [if_neg hself, if_pos hlink]
        rfl
      by_cases htaken : s.hasChildName parent.id type.fullForm name.fullForm
      · simp only [if_neg hself, if_neg hlink, if_pos htaken]
        rfl
      -- the database has nothing against an association that has passed the checks
      simp only [if_neg hself, if_neg hlink, if_neg htaken] at hok ⊢
      rw [if_pos ((hok _ rfl).admitsAssociation (keepsOnePrimary_of_secondary rfl))]

end Multifiling.Filing
