import Multifiling.Proofs.Operation.Run

/-!
What the operations that insert and remove rows do, as equations between the store before and the
store after. Every attempt to insert takes a number, whether a row comes of it or not.
-/

namespace Multifiling.Store

/-- The same rows, with the number for a user taken. -/
def countUser (s : Store) : Store :=
  { s with issued := { s.issued with users := s.issued.users + 1 } }

/-- The same rows, with the number for a node taken. -/
def countNode (s : Store) : Store :=
  { s with issued := { s.issued with nodes := s.issued.nodes + 1 } }

/-- The same rows, with the number for an association taken. -/
def countAssociation (s : Store) : Store :=
  { s with issued := { s.issued with associations := s.issued.associations + 1 } }

/-- The store with one user more, and its number taken. -/
def addUser (s : Store) (u : User) : Store := { s.countUser with users := s.users ++ [u] }

/-- The store with one node more, and its number taken. -/
def addNode (s : Store) (n : Node) : Store := { s.countNode with nodes := s.nodes ++ [n] }

/-- The store with one association more, and its number taken. -/
def addAssociation (s : Store) (a : Association) : Store :=
  { s.countAssociation with associations := s.associations ++ [a] }

def nextAssociation (s : Store) (parent child : Uuid) (type name : String) (isPrimary : Bool) :
    Association :=
  { id := s.issued.associations + 1, parent, child, type, name, isPrimary }

/-- The next node to be inserted, of a name and a type. -/
def nextNode (s : Store) (draft : NodeDraft) (name type : String) : Node :=
  { id := .ofNode (s.issued.nodes + 1), name, type, properties := draft.properties
    isRoot := draft.isRoot, createdBy := draft.createdBy, modifiedBy := draft.modifiedBy }

/-- The store without the secondary associations of a number. -/
def dropSecondary (s : Store) (id : Nat) : Store :=
  { s with associations := s.associations.filter fun b => !(b.id = id && !b.isPrimary) }

end Multifiling.Store

namespace Multifiling.Operation
open Store

theorem run_insertUser (draft : UserDraft) (s : Store) :
    (insertUser draft).run s =
      if s.hasTables then
        match draft.username with
        | none => .error .rowRefused s.countUser
        | some username =>
          let u : User := ⟨.ofUser (s.issued.users + 1), username, draft.firstName,
            draft.lastName, draft.email⟩
          if s.admitsUsername username then .ok u (s.addUser u)
          else .error .rowRefused s.countUser
      else .error (.noTables true) s.countUser := by
  have htake : takeUserId.run s = .ok (.ofUser (s.issued.users + 1)) s.countUser := rfl
  have htables : s.countUser.hasTables = s.hasTables := rfl
  simp only [insertUser, EStateM.run_bind, htake, run_writable, htables]
  by_cases h : s.hasTables
  · cases draft.username with
    | none => simp [h]
    | some username =>
      have hadmits : s.countUser.admitsUsername username = s.admitsUsername username := rfl
      simp only [h, if_true, EStateM.run_bind, run_require, hadmits]
      cases s.admitsUsername username <;> rfl
  · simp [h]

theorem run_insertNode (draft : NodeDraft) (s : Store) :
    (insertNode draft).run s =
      if s.hasTables then
        match draft.name, draft.type with
        | some name, some type =>
          let n := s.nextNode draft name type
          if s.admitsReferences draft.createdBy draft.modifiedBy then .ok n (s.addNode n)
          else .error .rowRefused s.countNode
        | _, _ => .error .rowRefused s.countNode
      else .error (.noTables true) s.countNode := by
  have htake : takeNodeId.run s = .ok (.ofNode (s.issued.nodes + 1)) s.countNode := rfl
  have htables : s.countNode.hasTables = s.hasTables := rfl
  have hadmits (c m : Option Uuid) :
      s.countNode.admitsReferences c m = s.admitsReferences c m := rfl
  simp only [insertNode, EStateM.run_bind, htake, run_writable, htables]
  by_cases h : s.hasTables
  · cases draft.name with
    | none => simp [h]
    | some name =>
      cases draft.type with
      | none => simp [h]
      | some type =>
        simp only [h, if_true, EStateM.run_bind, run_require, hadmits]
        cases s.admitsReferences draft.createdBy draft.modifiedBy <;> rfl
  · simp [h]

theorem run_insertAssociation (parent child : Uuid) (type name : String) (isPrimary : Bool)
    (s : Store) :
    let a := s.nextAssociation parent child type name isPrimary
    (insertAssociation parent child type name isPrimary).run s =
      if s.admitsAssociation a then .ok a (s.addAssociation a)
      else .error .rowRefused s.countAssociation := by
  intro a
  have htake : takeAssociationId.run s = .ok a.id s.countAssociation := rfl
  have hadmits : s.countAssociation.admitsAssociation
      { id := a.id, parent, child, type, name, isPrimary } = s.admitsAssociation a := rfl
  simp only [insertAssociation, EStateM.run_bind, htake, run_require, hadmits]
  cases s.admitsAssociation a <;> rfl

theorem run_addChild (parent child : Node) (type name : QName) (isPrimary : Bool) (atHand : AtHand)
    (s : Store) :
    let a := s.nextAssociation parent.id child.id type.fullForm name.fullForm isPrimary
    (addChild parent child type name isPrimary atHand).run s =
      if parent.id = child.id then .error (.badArgument (.ownChild child.id)) s
      else if s.hasAssociation parent.id child.id type.fullForm then
        .error (.conflict (.association parent.id child.id type.fullForm)) s
      else if s.hasChildName parent.id type.fullForm name.fullForm then
        .error (.conflict (.childName parent.id type.fullForm name.localName)) s
      else if s.admitsAssociation a then .ok a (s.addAssociation a)
      else
        .error (@Failure.workLost (toldRefused parent child type name atHand))
          s.countAssociation := by
  intro a
  by_cases hself : parent.id = child.id
  · simp [addChild, hself]
  simp only [addChild, hself, if_false, EStateM.run_bind, run_require]
  by_cases hlink : s.hasAssociation parent.id child.id type.fullForm
  · simp [hlink]
  by_cases hname : s.hasChildName parent.id type.fullForm name.fullForm
  · simp [hlink, hname]
  simp only [hlink, hname, Bool.not_false, if_true, run_tryCatch, run_insertAssociation]
  by_cases hadmits : s.admitsAssociation a
  · rw [if_pos hadmits, if_pos hadmits]
    rfl
  · rw [if_neg hadmits, if_neg hadmits]
    rfl

theorem run_removeSecondary (a : Association) (s : Store) :
    (removeSecondary a).run s =
      if a.isPrimary then .error (.badArgument (.removesPrimary a.parent a.child)) s
      else
        .ok (s.associations.any fun b => b.id = a.id && !b.isPrimary) (s.dropSecondary a.id) := by
  by_cases h : a.isPrimary
  · simp [removeSecondary, h]
  · simp only [removeSecondary, h]
    rfl

/-- A new node's row comes first, then the association to its parent; a failure in between leaves
the row. -/
theorem run_createNode (new : NewNode) (parent : Option Node) (parentAtHand : Bool) (s : Store) :
    (createNode new parent parentAtHand).run s =
      if parent.isNone && !new.isRoot then .error (.badArgument .noParent) s
      else
        match (localNameFor new.name).bind contentName with
        | .error e => .error (.badArgument (.nodeName e)) s
        | .ok name =>
          match (insertNode
            { name := new.name, type := some new.type.fullForm, properties := new.properties
              isRoot := new.isRoot, createdBy := new.createdBy
              modifiedBy := new.createdBy }).run s with
          | .error e t => .error e t
          | .ok n t =>
            match parent with
            | none => .ok n t
            | some p =>
              match (addChild p n new.assocType name true ⟨parentAtHand, true⟩).run t with
              | .ok _ u => .ok n u
              | .error e u => .error e u := by
  simp only [createNode]
  split
  · simp
  · cases (localNameFor new.name).bind contentName with
    | error e => simp
    | ok name =>
      simp only [EStateM.run_bind]
      cases (insertNode _).run s with
      | error e t => rfl
      | ok n t =>
        cases parent with
        | none => rfl
        | some p =>
          simp only [EStateM.run_bind]
          cases (addChild p n new.assocType name true ⟨parentAtHand, true⟩).run t <;> rfl

end Multifiling.Operation
