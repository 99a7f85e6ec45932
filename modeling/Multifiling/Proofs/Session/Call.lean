import Multifiling.Proofs.Filing.Change
import Multifiling.Proofs.Session.Run

/-!
Calls on the store in one session. A call finds the rows as the calls before have left them, those
that failed included. Whatever the calls are, no association ever breaks a constraint: the checks
that come before an insert suffice, with or without a database that enforces the constraints, and
where it does it never has to refuse an association.
-/

namespace Multifiling

/-- A call on the store, with nodes given by their identifiers. -/
inductive Call where
  | createUser (draft : UserDraft)
  | createNode (new : Operation.NewNode) (parent : Option Uuid)
  /-- Links a child as a secondary one. -/
  | addChild (parent child : Uuid) (type name : QName)
  | removeSecondary (association : Association)
  | file (registry : Registry) (parent : String) (links : List ChildLink)
  | unfile (registry : Registry) (parent child : String) (assocType : Option String)

def Operation.nodeOf (id : Uuid) : Operation Node :=
  read fun s =>
    match s.node? id with
    | none => .error (.nodeNotFound (some id.text))
    | some n => .ok n

def Call.operation : Call → Operation Unit
  | .createUser draft => discard (Operation.insertUser draft)
  | .createNode new none => discard (Operation.createNode new none)
  | .createNode new (some parent) => do
    let parent ← Operation.nodeOf parent
    discard (Operation.createNode new (some parent))
  | .addChild parent child type name => do
    let parent ← Operation.nodeOf parent
    let child ← Operation.nodeOf child
    discard (Operation.addChild parent child type name false)
  | .removeSecondary association => discard (Operation.removeSecondary association)
  | .file registry parent links => discard (Filing.create registry parent links)
  | .unfile registry parent child assocType => Filing.delete registry parent child assocType

/-! ### Orderly operations -/

namespace Operation
open Store

variable {α : Type} {s : Store} {x : Operation α}

theorem run_discard (x : Operation α) (s : Store) :
    (discard x).run s = match x.run s with
      | .ok _ t => .ok () t
      | .error e t => .error e t := by
  change (x >>= fun _ => pure ()).run s = _
  rw [EStateM.run_bind]
  cases x.run s <;> rfl

theorem after_discard (x : Operation α) (s : Store) :
    (discard x).after s = x.after s := by
  rw [after, run_discard, after]
  cases x.run s <;> rfl

theorem run_nodeOf (id : Uuid) (s : Store) :
    (nodeOf id).run s = match s.node? id with
      | none => .error (.nodeNotFound (some id.text)) s
      | some n => .ok n s := by
  rw [nodeOf, run_read]
  cases s.node? id <;> rfl

theorem after_nodeOf_bind {id : Uuid} {f : Node → Operation α} :
    (nodeOf id >>= f).after s = ((s.node? id).map fun n => (f n).after s).getD s := by
  rw [after_bind, run_nodeOf]
  cases s.node? id <;> rfl

/-- Nothing changes where a node is not found. -/
theorem nodeOf_bind_changes {kinds : List Kind} {id : Uuid} {f : Node → Operation α}
    (h : ∀ n, s.node? id = some n → Changes kinds s ((f n).after s)) :
    Changes kinds s ((nodeOf id >>= f).after s) := by
  rw [after_nodeOf_bind]
  cases hn : s.node? id with
  | none => exact .refl s
  | some n => exact h n hn

/-- An outcome that leaves a store in order: no node is gone, none is without a primary parent
after a success, and the database has not had to refuse an association. -/
def Orderly (s : Store) : EStateM.Result Failure Store α → Prop
  | .ok _ t => Changes Kind.orderly s t
  | .error e t => e.losesWork = false ∧ Changes Kind.growing s t

theorem Orderly.dropValue (h : Orderly s (x.run s)) : Orderly s ((discard x).run s) := by
  rw [run_discard]
  cases hx : x.run s with
  | ok a t => rw [hx] at h; exact h
  | error e t => rw [hx] at h; exact h

theorem Orderly.nodeOf_bind {id : Uuid} {f : Node → Operation α}
    (h : ∀ n, s.node? id = some n → Orderly s ((f n).run s)) :
    Orderly s ((nodeOf id >>= f).run s) := by
  rw [EStateM.run_bind, run_nodeOf]
  cases hn : s.node? id with
  | none => exact ⟨rfl, .refl s⟩
  | some n => exact h n hn

theorem Orderly.after (h : Orderly s (x.run s)) : Changes Kind.growing s (x.after s) := by
  cases hx : x.run s with
  | ok a t =>
    rw [hx] at h
    rw [after_of_ok hx]
    exact Changes.mono h (by decide)
  | error e t =>
    rw [hx] at h
    rw [after_of_error hx]
    exact h.2

/-! ### The operations of calls -/

theorem insertUser_orderly (draft : UserDraft) (s : Store) :
    Orderly s ((insertUser draft).run s) := by
  rcases insertUser_cases draft s with ⟨e, h, he⟩ | ⟨u, h⟩
  · rw [h]
    have hi : s.issued ≤ s.countUser.issued := ⟨Nat.le_succ _, Nat.le_refl _, Nat.le_refl _⟩
    exact ⟨he, .single (.count _ hi) (by decide)⟩
  · rw [h]
    exact .single (.user u) (by decide)

theorem createNode_orderly (new : NewNode) {parent : Option Node} (hs : s.Sound)
    (hp : ∀ p ∈ parent, s.HasNode p.id) :
    Orderly s ((createNode new parent).run s) := by
  rcases createNode_cases new false hs hp with ⟨e, t, h, he, hc⟩ | ⟨n, t, h, -, hc⟩
  · rw [h]
    exact ⟨he, hc.mono (by decide)⟩
  · rw [h]
    exact hc.elim (.single · (by decide)) (.single · (by decide))

theorem addChild_orderly {parent child : Node} (type name : QName) (hp : s.HasNode parent.id)
    (hc : s.HasNode child.id) : Orderly s ((addChild parent child type name false).run s) := by
  rcases addChild_secondary type name {} hp hc with ⟨e, h, he⟩ | ⟨a, h, hc⟩
  · rw [h]
    exact ⟨losesWork_of_keeps he, .refl s⟩
  · rw [h]
    exact .single hc (by decide)

theorem removeSecondary_orderly (a : Association) (s : Store) :
    Orderly s ((removeSecondary a).run s) := by
  rw [run_removeSecondary]
  by_cases h : a.isPrimary
  · rw [if_pos h]
    exact ⟨rfl, .refl s⟩
  · rw [if_neg h]
    exact (dropSecondary_changes s a.id).mono (by decide)

theorem create_orderly (registry : Registry) (parentId : String) (links : List ChildLink)
    (s : Store) : Orderly s ((Filing.create registry parentId links).run s) := by
  obtain ⟨t, hc, ⟨e, h, he⟩ | ⟨made, h⟩⟩ := Filing.create_cases registry parentId links s
  · rw [h]
    exact ⟨losesWork_of_keeps he, hc.mono (by decide)⟩
  · rw [h]
    exact hc.mono (by decide)

theorem delete_orderly (registry : Registry) (parentId childId : String)
    (assocType : Option String) (s : Store) :
    Orderly s ((Filing.delete registry parentId childId assocType).run s) := by
  obtain ⟨t, hc, ⟨e, h, he⟩ | h⟩ := Filing.delete_cases registry parentId childId assocType s
  · rw [h]
    exact ⟨losesWork_of_keeps he, hc.mono (by decide)⟩
  · rw [h]
    exact hc.mono (by decide)

end Operation

namespace Call
open Store Operation

variable {s : Store}

/-- Every call leaves a sound store in order. -/
theorem orderly (c : Call) (hs : s.Sound) : Orderly s (c.operation.run s) := by
  cases c with
  | createUser draft => exact (insertUser_orderly draft s).dropValue
  | createNode new parent =>
    cases parent with
    | none => exact (createNode_orderly new hs (by simp)).dropValue
    | some id =>
      refine .nodeOf_bind fun parent hparent => (createNode_orderly new hs ?_).dropValue
      simpa using hasNode_of_mem (node?_eq_some hparent).1
  | addChild parentId childId type name =>
    refine .nodeOf_bind fun parent hparent => .nodeOf_bind fun child hchild => ?_
    exact (addChild_orderly type name (hasNode_of_mem (node?_eq_some hparent).1)
      (hasNode_of_mem (node?_eq_some hchild).1)).dropValue
  | removeSecondary a => exact (removeSecondary_orderly a s).dropValue
  | file registry parentId links => exact (create_orderly registry parentId links s).dropValue
  | unfile registry parentId childId assocType =>
    exact delete_orderly registry parentId childId assocType s

theorem after_sound (c : Call) (hs : s.Sound) : (c.operation.after s).Sound :=
  (c.orderly hs).after.sound hs

/-- Whether a call makes a user or a node. -/
def creates : Call → Bool
  | .createUser _ | .createNode _ _ => true
  | .addChild _ _ _ _ | .removeSecondary _ | .file _ _ _ | .unfile _ _ _ _ => false

theorem after_creates {c : Call} (hc : c.creates = true) (hs : s.Sound) :
    Changes Kind.creating s (c.operation.after s) := by
  cases c with
  | createUser draft =>
    rw [operation, after_discard]
    exact (insertUser_after draft s).mono (by decide)
  | createNode new parent =>
    cases parent with
    | none =>
      rw [operation, after_discard]
      exact (createNode_after new hs (by simp)).mono (by decide)
    | some id =>
      refine nodeOf_bind_changes fun parent hparent => ?_
      rw [after_discard]
      refine (createNode_after new hs ?_).mono (by decide)
      simpa using hasNode_of_mem (node?_eq_some hparent).1
  | addChild | removeSecondary | file | unfile => cases hc

end Call

/-! ### Sessions -/

namespace Session
open Store

variable {session : Session}

/-- A session on sound stores, whose insert counts have not fallen behind those last committed. -/
structure Sound (session : Session) : Prop where
  committed : session.committed.Sound
  current : session.current.Sound
  issued_le : session.committed.issued ≤ session.current.issued

/-- The session after a call, whether it succeeded or failed. -/
def call (session : Session) (c : Call) : Session := (session.run c.operation).session

/-- What undoing work leaves is as sound as what was committed. -/
theorem restore_sound {s t : Store} (hs : s.Sound) (hi : s.issued ≤ t.issued) :
    (t.restore s).Sound := by
  have hc : Changes [.count] s (t.restore s) := .single (.count t.issued hi) (by decide)
  exact hc.sound hs

/-- A session stays sound if the rows that an operation leaves are sound and no count goes back. -/
theorem run_sound {α : Type} {operation : Operation α} (h : session.Sound)
    (ht : (operation.after session.current).Sound)
    (hi : session.current.issued ≤ (operation.after session.current).issued) :
    (session.run operation).session.Sound := by
  have hi := Issued.le_trans h.issued_le hi
  rw [run]
  rw [Operation.after] at ht hi
  cases hr : operation.run session.current with
  | ok a t =>
    rw [hr] at hi ht
    exact ⟨h.committed, ht, hi⟩
  | error e t =>
    rw [hr] at hi ht
    cases he : e.undoesWork with
    | false => simpa only [he] using ⟨h.committed, ht, hi⟩
    | true =>
      -- the rows go back, but not the insert counts, so no identifier comes up twice
      simp only [he, if_true, rollback]
      exact ⟨h.committed, restore_sound h.committed hi, hi⟩

theorem call_sound (h : session.Sound) (c : Call) : (session.call c).Sound := by
  have hc := (c.orderly h.current).after
  exact run_sound h (hc.sound h.current) hc.issued_le

theorem calls_sound (h : session.Sound) (calls : List Call) :
    (calls.foldl call session).Sound := by
  induction calls generalizing session with
  | nil => exact h
  | cons c rest ih => exact ih (call_sound h c)

/-- On sound rows the database has nothing to refuse an association for. -/
theorem run_keepsWork (h : session.Sound) (c : Call) {e : Failure}
    (he : (session.run c.operation).result = .error e) : e.losesWork = false := by
  have hc := c.orderly h.current
  obtain ⟨t, hrun, -⟩ := of_result_error he
  rw [hrun] at hc
  exact hc.1

end Session

namespace Call
open Store

/-- The rows after calls, those that failed included, with nothing undone in between. -/
def makeAll (calls : List Call) (s : Store) : Store :=
  calls.foldl (fun s c => c.operation.after s) s

theorem makeAll_sound {s : Store} (hs : s.Sound) (calls : List Call) : (makeAll calls s).Sound := by
  induction calls generalizing s with
  | nil => exact hs
  | cons c rest ih => exact ih (c.after_sound hs)

/-- Whatever calls are made on an empty store that enforces nothing, failed ones included, its
associations never break a constraint; so in a session on a store that enforces the constraints, no
call ever fails because the database refuses an association. -/
theorem checks_keep_constraints (calls : List Call) :
    (makeAll calls { enforces := false }).Constraints ∧
      ∀ (c : Call) (e : Failure),
        ((calls.foldl Session.call {}).run c.operation).result = .error e →
          e.losesWork = false := by
  refine ⟨(makeAll_sound (.empty false) calls).constraints, fun c e he => ?_⟩
  have hempty : ({} : Session).Sound := ⟨.empty true, .empty true, Issued.le_refl _⟩
  exact Session.run_keepsWork (Session.calls_sound hempty calls) c he

/-- A node whose name is taken is left behind without a parent, but with no association either. -/
example :
    let s := makeAll
      [.createNode { name := some "Home", type := ContentModel.folder, isRoot := true } none,
        .createNode { name := some "notes.txt" } (some (.ofNode 1)),
        .createNode { name := some "notes.txt" } (some (.ofNode 1))] { enforces := false }
    s.nodes.length = 3 ∧ s.associations.length = 1 := by decide +kernel

end Call

end Multifiling
