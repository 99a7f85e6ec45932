import Multifiling.Proofs.Operation.Insert

/-!
How linking a child and creating a node can end: a case for each place at which they stop, with the
condition for it and the rows that are left there (`addChild_linking`, `createNode_creation`).
-/

namespace Multifiling.Operation
open Store

variable {s : Store} {parent child : Node} {type name : QName} {isPrimary : Bool}
  {atHand : AtHand}

/-- What the checks of `addChild` ask for: the child is another node than the parent, not linked to
it with this type, and its name is free. -/
structure Unlinked (s : Store) (parent child : Node) (type name : QName) : Prop where
  apart : parent.id ≠ child.id
  link : s.hasAssociation parent.id child.id type.fullForm = false
  name : s.hasChildName parent.id type.fullForm name.fullForm = false

/-- How linking a child to a parent ends. Only the insert itself leaves other rows than it finds. -/
inductive Linking (s : Store) (parent child : Node) (type name : QName) (isPrimary : Bool)
    (atHand : AtHand) : EStateM.Result Failure Store Association → Prop where
  | itself (h : parent.id = child.id) :
    Linking s parent child type name isPrimary atHand (.error (.badArgument (.ownChild child.id)) s)
  | linked (hapart : parent.id ≠ child.id)
    (h : s.hasAssociation parent.id child.id type.fullForm = true) :
    Linking s parent child type name isPrimary atHand
      (.error (.conflict (.association parent.id child.id type.fullForm)) s)
  | taken (hapart : parent.id ≠ child.id)
    (hlink : s.hasAssociation parent.id child.id type.fullForm = false)
    (h : s.hasChildName parent.id type.fullForm name.fullForm = true) :
    Linking s parent child type name isPrimary atHand
      (.error (.conflict (.childName parent.id type.fullForm name.localName)) s)
  | refused (hnew : Unlinked s parent child type name)
    (h : s.admitsAssociation
      (s.nextAssociation parent.id child.id type.fullForm name.fullForm isPrimary) = false)
    {told : Option Conflict} (htold : told = toldRefused parent child type name atHand) :
    Linking s parent child type name isPrimary atHand
      (.error (@Failure.workLost told) s.countAssociation)
  | made (hnew : Unlinked s parent child type name) {a : Association}
    (ha : a = s.nextAssociation parent.id child.id type.fullForm name.fullForm isPrimary)
    (h : s.admitsAssociation a = true) :
    Linking s parent child type name isPrimary atHand (.ok a (s.addAssociation a))

theorem addChild_linking (s : Store) (parent child : Node) (type name : QName)
    (isPrimary : Bool) (atHand : AtHand) :
    Linking s parent child type name isPrimary atHand
      ((addChild parent child type name isPrimary atHand).run s) := by
  rw [run_addChild]
  by_cases hself : parent.id = child.id
  · rw [if_pos hself]
    exact .itself hself
  rw [if_neg hself]
  cases hlink : s.hasAssociation parent.id child.id type.fullForm with
  | true => exact .linked hself hlink
  | false =>
    cases hname : s.hasChildName parent.id type.fullForm name.fullForm with
    | true => exact .taken hself hlink hname
    | false =>
      have hnew : Unlinked s parent child type name := ⟨hself, hlink, hname⟩
      simp only [Bool.false_eq_true, if_false]
      cases hadmits : s.admitsAssociation
          (s.nextAssociation parent.id child.id type.fullForm name.fullForm isPrimary) with
      | true => exact .made hnew rfl hadmits
      | false => exact .refused hnew hadmits rfl

/-- The row that creating a node asks for. -/
def NewNode.draft (new : NewNode) : NodeDraft :=
  { name := new.name, type := some new.type.fullForm, properties := new.properties
    isRoot := new.isRoot, createdBy := new.createdBy, modifiedBy := new.createdBy }

/-- What the insert of a node's row asks for. -/
structure Insertable (s : Store) (draft : NodeDraft) : Prop where
  tables : s.hasTables = true
  named : draft.name.isSome = true
  typed : draft.type.isSome = true
  references : s.admitsReferences draft.createdBy draft.modifiedBy = true

/-- The row of a node has been inserted. -/
structure Inserted (s : Store) (draft : NodeDraft) (n : Node) : Prop where
  insertable : Insertable s draft
  id_eq : n.id = .ofNode (s.issued.nodes + 1)
  isRoot_eq : n.isRoot = draft.isRoot

theorem insertNode_cases (draft : NodeDraft) (s : Store) :
    (∃ e, (insertNode draft).run s = .error e s.countNode ∧ ¬Insertable s draft ∧
      e.undoesWork = true ∧ e.losesWork = false) ∨
    ∃ n, (insertNode draft).run s = .ok n (s.addNode n) ∧ Inserted s draft n := by
  rw [run_insertNode]
  by_cases htables : s.hasTables
  · rw [if_pos htables]
    cases hname : draft.name with
    | none => exact .inl ⟨_, rfl, fun h => by simpa [hname] using h.named, rfl, rfl⟩
    | some name =>
      cases htype : draft.type with
      | none => exact .inl ⟨_, rfl, fun h => by simpa [htype] using h.typed, rfl, rfl⟩
      | some type =>
        by_cases h : s.admitsReferences draft.createdBy draft.modifiedBy
        · exact .inr ⟨_, if_pos h, ⟨htables, by simp [hname], by simp [htype], h⟩, rfl, rfl⟩
        · exact .inl ⟨_, if_neg h, fun hins => h hins.references, rfl, rfl⟩
  · exact .inl ⟨_, if_neg htables, fun h => htables h.tables, rfl, rfl⟩

/-- How creating a node ends. What linking it to its parent does comes after its row is there. -/
inductive Creation (s : Store) (new : NewNode) :
    Option Node → EStateM.Result Failure Store Node → Prop where
  | noParent (h : new.isRoot = false) : Creation s new none (.error (.badArgument .noParent) s)
  | misnamed {parent : Option Node} {e : QNameError}
    (h : (localNameFor new.name).bind contentName = .error e) :
    Creation s new parent (.error (.badArgument (.nodeName e)) s)
  | refused {parent : Option Node} {e : Failure} (h : ¬Insertable s new.draft)
    (hundoes : e.undoesWork = true) (hlost : e.losesWork = false) :
    Creation s new parent (.error e s.countNode)
  | top {n : Node} {name : QName} (hn : Inserted s new.draft n)
    (hname : (localNameFor new.name).bind contentName = .ok name) (hroot : new.isRoot = true) :
    Creation s new none (.ok n (s.addNode n))
  | linked {p n : Node} {name : QName} {atHand : AtHand} {a : Association} {t : Store}
    (hn : Inserted s new.draft n) (hname : (localNameFor new.name).bind contentName = .ok name)
    (h : Linking (s.addNode n) p n new.assocType name true atHand (.ok a t)) :
    Creation s new (some p) (.ok n t)
  | unlinked {p n : Node} {name : QName} {atHand : AtHand} {e : Failure} {t : Store}
    (hn : Inserted s new.draft n) (hname : (localNameFor new.name).bind contentName = .ok name)
    (h : Linking (s.addNode n) p n new.assocType name true atHand (.error e t)) :
    Creation s new (some p) (.error e t)

theorem createNode_creation (s : Store) (new : NewNode) (parent : Option Node)
    (parentAtHand : Bool) : Creation s new parent ((createNode new parent parentAtHand).run s) := by
  rw [run_createNode]
  by_cases hroot : parent.isNone && !new.isRoot
  · rw [if_pos hroot]
    simp only [Bool.and_eq_true, Option.isNone_iff_eq_none, Bool.not_eq_true'] at hroot
    obtain ⟨rfl, hroot⟩ := hroot
    exact .noParent hroot
  rw [if_neg hroot]
  cases hname : (localNameFor new.name).bind contentName with
  | error e => exact .misnamed hname
  | ok name =>
    simp only
    rcases insertNode_cases new.draft s with ⟨e, h, hins, hundoes, he⟩ | ⟨n, h, hn⟩
    · rw [NewNode.draft] at h
      rw [h]
      exact .refused hins hundoes he
    rw [NewNode.draft] at h
    rw [h]
    cases parent with
    | none => exact .top hn hname (by simpa using hroot)
    | some p =>
      have hlinking :=
        addChild_linking (s.addNode n) p n new.assocType name true ⟨parentAtHand, true⟩
      simp only
      cases hadd : (addChild p n new.assocType name true ⟨parentAtHand, true⟩).run
          (s.addNode n) with
      | ok a t => exact .linked hn hname (hadd ▸ hlinking)
      | error e t => exact .unlinked hn hname (hadd ▸ hlinking)

end Multifiling.Operation
