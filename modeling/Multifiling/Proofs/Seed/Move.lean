import Mathlib.Logic.Basic
import Multifiling.Proofs.Operation.Change
import Multifiling.Seed

/-!
The sample content under other identifiers. A store can be moved: the identifiers of its nodes and
associations rise by fixed numbers, and its nodes get another owner among other users. The steps
that create the content do not look at identifiers beyond comparing them, so on a moved store they
do the same, moved (`createTree_moves`).
-/

namespace Multifiling

/-- Where rows are moved to. -/
structure Move where
  /-- The identifiers of nodes rise by so much. -/
  nodes : Nat
  /-- The numbers of associations rise by so much. -/
  associations : Nat
  owner : User
  users : List User
  issuedUsers : Nat

namespace Move
open Operation

variable (m : Move)

def id (id : Uuid) : Uuid := ⟨id.value + m.nodes⟩

def node (n : Node) : Node :=
  { n with
    id := m.id n.id
    createdBy := n.createdBy.map fun _ => m.owner.id
    modifiedBy := n.modifiedBy.map fun _ => m.owner.id }

def association (a : Association) : Association :=
  { a with id := a.id + m.associations, parent := m.id a.parent, child := m.id a.child }

def store (s : Store) : Store :=
  { s with
    users := m.users
    nodes := s.nodes.map m.node
    associations := s.associations.map m.association
    issued := ⟨m.issuedUsers, s.issued.nodes + m.nodes, s.issued.associations + m.associations⟩ }

/-- The owner is one of the users. -/
def Owned : Prop := m.owner ∈ m.users

@[simp] theorem id_inj {a b : Uuid} : m.id a = m.id b ↔ a = b := by
  cases a
  cases b
  simp [id]

/-! ### Rows -/

section Fields

variable (n : Node) (a : Association)

@[simp] theorem node_id : (m.node n).id = m.id n.id := rfl

@[simp] theorem node_name : (m.node n).name = n.name := rfl

@[simp] theorem association_parent : (m.association a).parent = m.id a.parent := rfl

@[simp] theorem association_child : (m.association a).child = m.id a.child := rfl

@[simp] theorem association_type : (m.association a).type = a.type := rfl

@[simp] theorem association_name : (m.association a).name = a.name := rfl

@[simp] theorem association_isPrimary : (m.association a).isPrimary = a.isPrimary := rfl

end Fields

variable (s : Store)

@[simp] theorem nodes_store : (m.store s).nodes = s.nodes.map m.node := rfl

@[simp] theorem associations_store :
    (m.store s).associations = s.associations.map m.association := rfl

theorem node?_store (i : Uuid) : (m.store s).node? (m.id i) = (s.node? i).map m.node := by
  rw [Store.node?, nodes_store, List.find?_map]
  congr 2
  funext n
  simp

theorem hasAssociation_store (parent child : Uuid) (type : String) :
    (m.store s).hasAssociation (m.id parent) (m.id child) type =
      s.hasAssociation parent child type := by
  rw [Bool.eq_iff_iff, hasAssociation_iff, hasAssociation_iff]
  simp

theorem hasChildName_store (parent : Uuid) (type name : String) :
    (m.store s).hasChildName (m.id parent) type name = s.hasChildName parent type name := by
  rw [Bool.eq_iff_iff, hasChildName_iff, hasChildName_iff]
  simp

theorem compatible_association (a b : Association) :
    Store.compatible (m.association a) (m.association b) = Store.compatible a b := by
  have hid (x y : Uuid) : decide (m.id x = m.id y) = decide (x = y) :=
    decide_eq_decide.mpr m.id_inj
  change (!(decide (m.id a.parent = m.id b.parent) && decide (m.id a.child = m.id b.child) && _) &&
    !(decide (m.id a.parent = m.id b.parent) && _ && _) &&
    !(_ && _ && decide (m.id a.child = m.id b.child))) = _
  rw [hid, hid]
  rfl

theorem admitsAssociation_store (a : Association) :
    (m.store s).admitsAssociation (m.association a) = s.admitsAssociation a := by
  have henforces : (m.store s).enforces = s.enforces := rfl
  simp [Store.admitsAssociation, node?_store, List.all_map, Function.comp_def,
    compatible_association, henforces]

theorem nextAssociation_store (parent child : Uuid) (type name : String) (isPrimary : Bool) :
    (m.store s).nextAssociation (m.id parent) (m.id child) type name isPrimary =
      m.association (s.nextAssociation parent child type name isPrimary) := by
  simp only [Store.nextAssociation, association, store, Association.mk.injEq, and_true]
  omega

theorem addAssociation_store (a : Association) :
    (m.store s).addAssociation (m.association a) = m.store (s.addAssociation a) := by
  simp only [Store.addAssociation, Store.countAssociation, store, List.map_append, List.map_cons,
    List.map_nil, Store.mk.injEq, Issued.mk.injEq, true_and, and_true]
  omega

theorem addNode_store (n : Node) : (m.store s).addNode (m.node n) = m.store (s.addNode n) := by
  simp only [Store.addNode, Store.countNode, store, List.map_append, List.map_cons, List.map_nil,
    Store.mk.injEq, Issued.mk.injEq, true_and, and_true]
  omega

/-- A draft of a node that has the owner for its creator and last modifier, if it has any. -/
def draft (d : NodeDraft) : NodeDraft :=
  { d with
    createdBy := d.createdBy.map fun _ => m.owner.id
    modifiedBy := d.modifiedBy.map fun _ => m.owner.id }

theorem nextNode_store (d : NodeDraft) (name type : String) :
    (m.store s).nextNode (m.draft d) name type = m.node (s.nextNode d name type) := by
  simp only [Store.nextNode, node, id, draft, store, Uuid.ofNode, Node.mk.injEq, Uuid.mk.injEq,
    and_true]
  omega

theorem refersToUser_store {m : Move} (hm : m.Owned) (reference : Option Uuid) :
    (m.store s).refersToUser (reference.map fun _ => m.owner.id) = true := by
  cases reference with
  | none => rfl
  | some _ =>
    simp only [Store.refersToUser, Option.map_some, Option.all_some, Store.user?, store,
      List.find?_isSome]
    exact ⟨m.owner, hm, decide_eq_true rfl⟩

end Move

/-! ### Operations -/

/-- Wherever an operation succeeds, another one succeeds on the moved store, with a result and rows
that are those of the first, moved. -/
def Moves {α β : Type} (m : Move) (f : α → β) (x : Operation α) (y : Operation β) : Prop :=
  ∀ ⦃s a t⦄, x.run s = .ok a t → y.run (m.store s) = .ok (f a) (m.store t)

namespace Moves
open Operation

variable {α β γ δ : Type} {m : Move} {f : α → β} {g : γ → δ}

theorem pure (f : α → β) (a : α) : Moves m f (Pure.pure a) (Pure.pure (f a)) := by
  intro s b t h
  cases h
  rfl

theorem bind {x : Operation α} {y : Operation β} {x' : α → Operation γ} {y' : β → Operation δ}
    (h : Moves m f x y) (h' : ∀ a, Moves m g (x' a) (y' (f a))) :
    Moves m g (x >>= x') (y >>= y') := by
  intro s c u hc
  obtain ⟨a, t, ha, hc⟩ := bind_ok hc
  rw [EStateM.run_bind, h ha]
  exact h' a hc

theorem addChild (parent child : Node) (type name : QName) (isPrimary : Bool) (atHand : AtHand) :
    Moves m m.association (Operation.addChild parent child type name isPrimary atHand)
      (Operation.addChild (m.node parent) (m.node child) type name isPrimary atHand) := by
  intro s a t h
  rw [run_addChild] at h ⊢
  simp only [m.node_id, m.id_inj, m.hasAssociation_store, m.hasChildName_store]
  split at h
  · cases h
  · next hself =>
    rw [if_neg hself]
    split at h
    · cases h
    · next hlink =>
      rw [if_neg hlink]
      split at h
      · cases h
      · next htaken =>
        rw [if_neg htaken]
        simp only [m.nextAssociation_store, m.admitsAssociation_store, m.addAssociation_store]
        split at h
        · next hadmits =>
          cases h
          rw [if_pos hadmits]
        · cases h

theorem insertNode (hm : m.Owned) (d : NodeDraft) :
    Moves m m.node (Operation.insertNode d) (Operation.insertNode (m.draft d)) := by
  intro s n t h
  rw [run_insertNode] at h ⊢
  split at h
  · next htables =>
    have htables' : (m.store s).hasTables = true := htables
    rw [if_pos htables']
    have hreferences : (m.store s).admitsReferences (m.draft d).createdBy
        (m.draft d).modifiedBy = true := by
      simp only [Store.admitsReferences, Move.draft, Move.refersToUser_store s hm, Bool.and_self,
        Bool.or_true]
    split at h
    · next name type hname htype =>
      have hname' : (m.draft d).name = some name := hname
      have htype' : (m.draft d).type = some type := htype
      rw [hname', htype']
      simp only at h ⊢
      split at h
      · cases h
        rw [if_pos hreferences, m.nextNode_store, m.addNode_store]
      · cases h
    · cases h
  · cases h

theorem createNode (hm : m.Owned) (new : NewNode) (user : User) (parent : Option Node)
    (parentAtHand : Bool) :
    Moves m m.node (Operation.createNode { new with createdBy := some user.id } parent parentAtHand)
      (Operation.createNode { new with createdBy := some m.owner.id } (parent.map m.node)
        parentAtHand) := by
  intro s n t h
  rw [run_createNode] at h ⊢
  simp only [Option.isNone_map] at h ⊢
  split at h
  · cases h
  · next hplaced =>
    rw [if_neg hplaced]
    cases hlocal : (localNameFor new.name).bind contentName with
    | error e => rw [hlocal] at h; cases h
    | ok name =>
      rw [hlocal] at h
      simp only at h ⊢
      split at h
      · cases h
      · next k u hinsert =>
        have hinsert' : (Operation.insertNode
            { name := new.name, type := some new.type.fullForm, properties := new.properties
              isRoot := new.isRoot, createdBy := some m.owner.id
              modifiedBy := some m.owner.id }).run (m.store s) = .ok (m.node k) (m.store u) :=
          insertNode hm _ hinsert
        rw [hinsert']
        cases parent with
        | none => cases h; rfl
        | some p =>
          simp only [Option.map_some] at h ⊢
          split at h
          · next a v hadd =>
            cases h
            rw [addChild p _ _ _ _ _ hadd]
          · cases h

/-! ### The sample content -/

open Seed

/-- Named nodes, moved. -/
def named (m : Move) (entries : List (String × Node)) : List (String × Node) :=
  entries.map fun (name, n) => (name, m.node n)

theorem entryOf_named (m : Move) (entries : Entries String Node) (name : String) :
    entryOf (named m entries) name = (entryOf entries name).map m.node := by
  have hget : (named m entries).lookup name = (entries.lookup name).map m.node := by
    induction entries with
    | nil => rfl
    | cons entry rest ih =>
      obtain ⟨key, n⟩ := entry
      rw [named, List.map_cons, List.lookup_cons, List.lookup_cons, ← named, ih]
      cases name == key <;> rfl
  rw [entryOf, entryOf, Entries.get?, Entries.get?, hget]
  cases entries.lookup name <;> rfl

/-- Of nodes with one name the last counts, moved or not. -/
theorem putAll_named (m : Move) (entries pairs : List (String × Node)) :
    Entries.putAll (named m entries) (named m pairs) = named m (Entries.putAll entries pairs) := by
  have hput (entries : Entries String Node) (name : String) (n : Node) :
      Entries.put (named m entries) name (m.node n) = named m (entries.put name n) := by
    induction entries with
    | nil => rfl
    | cons entry rest ih =>
      obtain ⟨key, k⟩ := entry
      rw [named, List.map_cons, ← named, Entries.put, Entries.put]
      split
      · rfl
      · rw [ih]
        rfl
  induction pairs generalizing entries with
  | nil => rfl
  | cons pair rest ih =>
    obtain ⟨name, n⟩ := pair
    exact (congrArg (Entries.putAll · (named m rest)) (hput entries name n)).trans (ih _)

variable {user : User}

theorem createDocuments (hm : m.Owned) (folder : Node) (names : List String) :
    Moves m (named m) (Seed.createDocuments user folder names)
      (Seed.createDocuments m.owner (m.node folder) names) := by
  induction names with
  | nil => exact .pure (named m) []
  | cons name rest ih =>
    have hnode := createNode hm
      { name := some name, properties := [("title", .string (title name))] } user (some folder) true
    refine .bind hnode fun document => .bind ih fun documents => ?_
    exact .pure (named m) ((name, document) :: documents)

theorem createFolders (hm : m.Owned) (root : Node) (folders : List (String × List String)) :
    Moves m (Prod.map (named m) (named m)) (Seed.createFolders user root folders)
      (Seed.createFolders m.owner (m.node root) folders) := by
  induction folders with
  | nil => exact .pure (Prod.map (named m) (named m)) ([], [])
  | cons entry rest ih =>
    obtain ⟨name, documentNames⟩ := entry
    have hnode :=
      createNode hm { name := some name, type := ContentModel.folder } user (some root) true
    refine .bind hnode fun folder => .bind (createDocuments hm folder documentNames)
      fun documents => .bind ih fun (laterFolders, laterDocuments) => ?_
    have hpure := Moves.pure (m := m) (Prod.map (named m) (named m))
      ((name, folder) :: laterFolders, documents ++ laterDocuments)
    rw [Prod.map, named, named, List.map_append] at hpure
    exact hpure

/-- What depends on a reading that comes out moved. -/
theorem read_bind {a : Except Failure α} {x : α → Operation γ} {y : β → Operation δ}
    (h : ∀ b, Moves m g (x b) (y (f b))) :
    Moves m g (Operation.read (fun _ => a) >>= x) (Operation.read (fun _ => a.map f) >>= y) := by
  intro s c t hc
  obtain ⟨b, ha, hc⟩ := read_bind_ok hc
  rw [run_read_bind, ha]
  exact h b hc

theorem fileDocuments (folders documents : Entries String Node)
    (filings : List (String × String)) :
    Moves m id (Seed.fileDocuments folders documents filings)
      (Seed.fileDocuments (named m folders) (named m documents) filings) := by
  induction filings with
  | nil => exact .pure id ()
  | cons filing rest ih =>
    obtain ⟨documentName, folderName⟩ := filing
    rw [Seed.fileDocuments, Seed.fileDocuments, entryOf_named, entryOf_named]
    refine read_bind fun document => read_bind fun folder => ?_
    simp only [m.node_name]
    cases (localNameFor (some document.name)).bind contentName with
    | error e => intro s a t h; cases h
    | ok name =>
      exact .bind (addChild folder document ContentModel.contains name false ⟨true, true⟩)
        fun _ => ih

/-- The content is created in the same way wherever it comes to stand. -/
theorem createTree (hm : m.Owned) {s t : Store} {lines : List String}
    (h : (Seed.createTree user).run s = .ok lines t) :
    ∃ lines', (Seed.createTree m.owner).run (m.store s) = .ok lines' (m.store t) := by
  rw [Seed.createTree] at h ⊢
  obtain ⟨root, s₁, hroot, h⟩ := bind_ok h
  obtain ⟨⟨folderNodes, documentNodes⟩, s₂, hfolders, h⟩ := bind_ok h
  obtain ⟨_, s₃, hfilings, h⟩ := bind_ok h
  cases h
  have hroot' := createNode hm
    { name := some "Company Home", type := ContentModel.folder, isRoot := true } user none false
    hroot
  rw [Option.map_none] at hroot'
  rw [EStateM.run_bind, hroot']
  simp only
  rw [EStateM.run_bind, createFolders hm root folders hfolders]
  simp only [Prod.map]
  have hentries (pairs : List (String × Node)) :
      Entries.putAll [] (named m pairs) = named m (Entries.putAll [] pairs) :=
    putAll_named m [] pairs
  rw [hentries, hentries, EStateM.run_bind, fileDocuments _ _ filings hfilings]
  exact ⟨_, rfl⟩

end Moves

end Multifiling
