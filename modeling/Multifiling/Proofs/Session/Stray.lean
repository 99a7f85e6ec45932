import Multifiling.Proofs.NodeView
import Multifiling.Proofs.Session.Refusal

/-!
Nodes that are left behind in an open session. A node that was created under a name that is taken
has no primary parent, although it is no root. It hangs from nothing until it is given a parent or
the work is undone. Its path has no elements, as that of a root, and is shown as complete: only of
these nodes the flag is wrong (`isComplete_iff`).
-/

namespace Multifiling
open Store Operation

variable {s t : Store} {n : Node} {left : List Uuid}

/-! ### Strays -/

namespace Store

/-- A node hangs from nothing, although it is no root. -/
def Stray (s : Store) (n : Node) : Prop :=
  n.isRoot = false ∧ ∀ parent, ¬s.PrimaryEdge parent n.id

/-- Identifiers are those of the strays. -/
structure Strays (s : Store) (left : List Uuid) : Prop where
  known : ∀ id ∈ left, s.HasNode id
  mem_iff : ∀ n ∈ s.nodes, n.id ∈ left ↔ s.Stray n

/-- In a forest nothing is left behind. -/
theorem Forest.strays (hf : s.Forest) : s.Strays [] where
  known := nofun
  mem_iff n hn := by
    refine iff_of_false List.not_mem_nil fun ⟨hroot, hnone⟩ => ?_
    rcases hf.rooted n hn with h | ⟨parent, he⟩
    · rw [hroot] at h
      cases h
    · exact hnone parent he

namespace Strays

theorem of_sameTree (hleft : s.Strays left) (h : SameTree s t) : t.Strays left where
  known id hid := by
    obtain ⟨n, hn, heq⟩ := hleft.known id hid
    exact ⟨n, h.nodes ▸ hn, heq⟩
  mem_iff n hn := by
    rw [hleft.mem_iff n (h.nodes ▸ hn), Stray, Stray]
    simp only [h.primaryEdge_iff]

theorem not_mem (hleft : s.Strays left) (hs : s.Sound)
    (hid : n.id = .ofNode (s.issued.nodes + 1)) : n.id ∉ left :=
  fun hmem => hs.numbered.fresh hid (hleft.known _ hmem)

/-- A new node hangs from nothing at first, so it is a stray unless it is a root. -/
theorem addNode (hleft : s.Strays left) (hs : s.Sound)
    (hid : n.id = .ofNode (s.issued.nodes + 1)) :
    (s.addNode n).Strays (left ++ if n.isRoot then [] else [n.id]) where
  known id hmem := by
    rcases List.mem_append.mp hmem with hmem | hmem
    · obtain ⟨m, hm, heq⟩ := hleft.known id hmem
      exact ⟨m, List.mem_append_left _ hm, heq⟩
    · have heq : id = n.id := by
        cases hroot : n.isRoot <;> simp [hroot] at hmem
        exact hmem
      exact ⟨n, List.mem_append_right _ (List.mem_singleton_self n), heq.symm⟩
  mem_iff m hm := by
    have hfresh := hs.numbered.fresh hid
    rw [List.mem_append]
    rcases List.mem_append.mp hm with hm | hm
    · have hne : m.id ≠ n.id := fun heq => hfresh (heq ▸ hasNode_of_mem hm)
      rw [hleft.mem_iff m hm]
      refine or_iff_left fun hmem => hne ?_
      cases hroot : n.isRoot <;> simp [hroot] at hmem
      exact hmem
    · cases List.mem_singleton.mp hm
      -- no association leads to a node that was not there
      have hnone : ∀ parent, ¬(s.addNode n).PrimaryEdge parent n.id := by
        rintro parent ⟨a, ha, -, -, hchild⟩
        exact hs.constraints.child_ne hfresh a ha hchild
      rw [or_iff_right (hleft.not_mem hs hid), Stray, and_iff_left hnone]
      cases n.isRoot <;> simp

/-- A node that is given a primary parent is a stray no more. -/
theorem addPrimary {a : Association} (hleft : s.Strays left) (hp : a.isPrimary = true) :
    (s.addAssociation a).Strays (left.filter (· ≠ a.child)) where
  known id hmem := hleft.known id (List.mem_filter.mp hmem).1
  mem_iff m hm := by
    rw [List.mem_filter, hleft.mem_iff m hm, decide_eq_true_iff]
    constructor
    · rintro ⟨⟨hroot, hnone⟩, hne⟩
      refine ⟨hroot, fun parent he => ?_⟩
      rcases PrimaryEdge.addAssociation_iff.mp he with he | ⟨-, -, hchild⟩
      · exact hnone parent he
      · exact hne hchild.symm
    · rintro ⟨hroot, hnone⟩
      exact ⟨⟨hroot, fun parent he => hnone parent (PrimaryEdge.addAssociation_iff.mpr (.inl he))⟩,
        fun heq => hnone a.parent (PrimaryEdge.addAssociation_iff.mpr (.inr ⟨hp, rfl, heq.symm⟩))⟩

end Strays

/-- Only a stray that is made adds to the strays. -/
theorem Change.strays {k : Kind} (h : Change k s t) (hk : k ∈ Kind.orderly) (hs : s.Sound)
    (hleft : s.Strays left) : t.Strays left := by
  have hfiling (hk : k ∈ Kind.filing) : t.Strays left := hleft.of_sameTree (h.sameTree hk)
  cases h with
  | count | link | unlink => exact hfiling (by decide)
  | user => exact ⟨hleft.known, hleft.mem_iff⟩
  | root hid hroot => simpa [hroot] using hleft.addNode hs hid
  | @child _ n a hid hp hchild ha =>
    have hadded := (hleft.addNode hs hid).addPrimary hp
    have hold : left.filter (· ≠ n.id) = left := by
      rw [List.filter_eq_self]
      exact fun id hmem => decide_eq_true fun heq => hleft.not_mem hs hid (heq ▸ hmem)
    have hnew : (if n.isRoot then [] else [n.id]).filter (· ≠ n.id) = [] := by
      cases n.isRoot <;> simp
    rwa [hchild, List.filter_append, hold, hnew, List.append_nil] at hadded
  | stray | clear => simp [Kind.orderly] at hk

theorem Changes.strays (h : Changes Kind.orderly s t) (hs : s.Sound) (hleft : s.Strays left) :
    t.Strays left := by
  refine (invariant (I := fun u => u.Sound ∧ u.Strays left) (fun hk hc hu => ?_) h ⟨hs, hleft⟩).2
  exact ⟨(Changes.single hc hk).sound hu.1, hc.strays hk hu.1 hu.2⟩

end Store

/-! ### Steps of a session -/

namespace Operation

variable {α : Type}

theorem conflicts_discard (x : Operation α) (s : Store) :
    (discard x).conflicts s = x.conflicts s := by
  rw [conflicts, run_discard, conflicts]
  cases x.run s <;> rfl

theorem conflicts_nodeOf_bind {id : Uuid} {f : Node → Operation α} :
    (nodeOf id >>= f).conflicts s = (s.node? id).any fun n => (f n).conflicts s := by
  rw [conflicts, EStateM.run_bind, run_nodeOf]
  cases s.node? id <;> rfl

end Operation

/-- What is done in an open session. -/
inductive Step where
  | call (c : Call)
  /-- Links a child as a primary one. -/
  | adopt (parent child : Uuid) (type name : QName)

namespace Step

def operation : Step → Operation Unit
  | .call c => c.operation
  | .adopt parent child type name => do
    let parent ← nodeOf parent
    let child ← nodeOf child
    discard (addChild parent child type name true)

/-- The nodes that are left behind after a step, given those before it: creating a node under a name
that is taken adds one, and linking one to a primary parent takes it off. -/
def leftBehind (s : Store) (left : List Uuid) : Step → List Uuid
  | .call (.createNode new parent) =>
    if (Call.createNode new parent).operation.conflicts s then
      left ++ if new.isRoot then [] else [.ofNode (s.issued.nodes + 1)]
    else left
  | .call _ => left
  | .adopt parent child type name =>
    if (adopt parent child type name).operation.succeeds s then left.filter (· ≠ child) else left

end Step

/-- The rows of an open session, with the strays among them. -/
structure Store.Tracked (s : Store) (left : List Uuid) : Prop where
  sound : s.Sound
  enforces : s.enforces = true
  strays : s.Strays left

namespace Operation

theorem createNode_strays (new : NewNode) {parent : Option Node} (hs : s.Sound)
    (hp : ∀ p ∈ parent, s.HasNode p.id) (hleft : s.Strays left) :
    ((createNode new parent).after s).Strays
      (if (createNode new parent).conflicts s then
        left ++ if new.isRoot then [] else [.ofNode (s.issued.nodes + 1)] else left) := by
  have hcreation := createNode_creation s new parent false
  rw [after, conflicts]
  generalize (createNode new parent).run s = r at hcreation ⊢
  cases hcreation with
  | noParent | misnamed => exact hleft
  | @refused _ e _ hundoes =>
    have hcount : s.countNode.Strays left := ⟨hleft.known, hleft.mem_iff⟩
    cases e with
    | conflict => cases hundoes
    | _ => exact hcount
  | top hn _ hroot =>
    exact (Change.root hn.id_eq (hn.isRoot_eq.trans hroot)).strays (by decide) hs hleft
  | linked hn _ h =>
    have hfree := hs.constraints.child_ne (hs.numbered.fresh hn.id_eq)
    rcases h.ofNew hn.id_eq hfree (hp _ rfl) with ⟨e, h, -⟩ | ⟨a, h, hc⟩
    · cases h
    · cases h
      exact hc.strays (by decide) hs hleft
  | unlinked hn _ h =>
    have hfree := hs.constraints.child_ne (hs.numbered.fresh hn.id_eq)
    rcases h.ofNew hn.id_eq hfree (hp _ rfl) with ⟨e, he, hundoes⟩ | ⟨a, he, -⟩
    · cases he
      obtain ⟨rfl, -, -⟩ := h.conflict_ofNew (hs.nextIsNew hp) hn.id_eq hundoes
      have hadded := hleft.addNode hs hn.id_eq
      rw [hn.isRoot_eq, hn.id_eq] at hadded
      exact hadded
    · cases he

end Operation

namespace Call

def createsNode : Call → Bool
  | .createNode _ _ => true
  | .createUser _ | .addChild _ _ _ _ | .removeSecondary _ | .file _ _ _ | .unfile _ _ _ _ => false

/-- Only creating a node can leave one behind. -/
theorem after_orderly {c : Call} (hc : c.createsNode = false) (s : Store) :
    Changes Kind.orderly s (c.operation.after s) := by
  cases c with
  | createUser draft =>
    rw [operation, after_discard]
    exact (insertUser_after draft s).mono (by decide)
  | createNode => cases hc
  | addChild parentId childId type name =>
    refine nodeOf_bind_changes fun parent hparent => nodeOf_bind_changes fun child hchild => ?_
    rw [after_discard]
    exact (addChild_after type name (hasNode_of_mem (node?_eq_some hparent).1)
      (hasNode_of_mem (node?_eq_some hchild).1)).mono (by decide)
  | removeSecondary a =>
    rw [operation, after_discard]
    exact (removeSecondary_after a s).mono (by decide)
  | file registry parentId links =>
    rw [operation, after_discard]
    exact (Filing.create_after registry parentId links s).mono (by decide)
  | unfile registry parentId childId assocType =>
    exact (Filing.delete_after registry parentId childId assocType s).mono (by decide)

theorem strays (c : Call) (hs : s.Sound) (hleft : s.Strays left) :
    (c.operation.after s).Strays ((Step.call c).leftBehind s left) := by
  cases c with
  | createNode new parent =>
    rw [Step.leftBehind, operation.eq_def]
    cases parent with
    | none =>
      simp only [after_discard, conflicts_discard]
      exact createNode_strays new hs (by simp) hleft
    | some id =>
      simp only [after_nodeOf_bind, conflicts_nodeOf_bind]
      cases hparent : s.node? id with
      | none => exact hleft
      | some parent =>
        simp only [Option.map_some, Option.getD_some, Option.any_some, after_discard,
          conflicts_discard]
        refine createNode_strays new hs ?_ hleft
        simpa using hasNode_of_mem (node?_eq_some hparent).1
  | createUser | addChild | removeSecondary | file | unfile =>
    exact (after_orderly rfl s).strays hs hleft

end Call

namespace Step

/-- Linking a child to a primary parent takes a number at most, or adds what the checks and the
database accept. -/
theorem adopt_cases (parent child : Uuid) (type name : QName) (hs : s.Tracked left) :
    (∃ e t, (adopt parent child type name).operation.run s = .error e t ∧
      Changes [.count] s t) ∨
    ∃ a, (adopt parent child type name).operation.run s = .ok () (s.addAssociation a) ∧
      a.isPrimary = true ∧ a.child = child ∧ s.Accepts a ∧ s.KeepsOnePrimary a := by
  rw [operation, EStateM.run_bind, run_nodeOf]
  cases hparent : s.node? parent with
  | none => exact .inl ⟨_, s, rfl, .refl s⟩
  | some p =>
    simp only [EStateM.run_bind, run_nodeOf]
    cases hchild : s.node? child with
    | none => exact .inl ⟨_, s, rfl, .refl s⟩
    | some c =>
      have hlinking := addChild_linking s p c type name true {}
      simp only [run_discard]
      generalize (addChild p c type name true).run s = r at hlinking ⊢
      cases hlinking with
      | itself | linked | taken => exact .inl ⟨_, s, rfl, .refl s⟩
      | refused =>
        refine .inl ⟨_, _, rfl, .single (.count _ ?_) (by decide)⟩
        exact ⟨Nat.le_refl _, Nat.le_refl _, Nat.le_succ _⟩
      | made hnew ha hadmits =>
        subst ha
        have hc := node?_eq_some hchild
        have haccepts : s.Accepts
            (s.nextAssociation p.id c.id type.fullForm name.fullForm true) :=
          hnew.accepts (hasNode_of_mem (node?_eq_some hparent).1) (hasNode_of_mem hc.1)
        refine .inr ⟨_, rfl, rfl, hc.2, haccepts, ?_⟩
        refine (haccepts.admitsAssociation_iff.mp hadmits).resolve_left ?_
        simp [hs.enforces]

/-- Whether it succeeds or fails, a step keeps track of the strays. -/
theorem tracked (step : Step) (hs : s.Tracked left) :
    (step.operation.after s).Tracked (step.leftBehind s left) ∧
      s.issued ≤ (step.operation.after s).issued := by
  cases step with
  | call c =>
    have hchanges := (c.orderly hs.sound).after
    exact ⟨⟨hchanges.sound hs.sound, hchanges.enforces.trans hs.enforces,
      c.strays hs.sound hs.strays⟩, hchanges.issued_le⟩
  | adopt parent child type name =>
    rw [leftBehind, Operation.succeeds]
    rcases adopt_cases parent child type name hs with
      ⟨e, t, h, hcount⟩ | ⟨a, h, hp, rfl, haccepts, hkeep⟩
    · rw [after_of_error h, h]
      exact ⟨⟨hcount.sound hs.sound, hcount.enforces.trans hs.enforces,
        hs.strays.of_sameTree (hcount.sameTree (by decide))⟩, hcount.issued_le⟩
    · rw [after_of_ok h, h]
      refine ⟨⟨⟨hs.sound.numbered.addAssociation haccepts.id_eq,
        hs.sound.constraints.addAssociation haccepts hkeep⟩, hs.enforces,
        hs.strays.addPrimary hp⟩, ?_⟩
      exact ⟨Nat.le_refl _, Nat.le_refl _, Nat.le_succ _⟩

end Step

/-! ### Sessions -/

namespace Session

variable {work : Session × List Uuid}

/-- A session after a step, with the nodes that were left behind in it. They are gone where the step
undoes the work. -/
def follow (work : Session × List Uuid) (step : Step) : Session × List Uuid :=
  let outcome := work.1.run step.operation
  (outcome.session, if outcome.undone then [] else step.leftBehind work.1.current work.2)

/-- An open session on committed rows after steps, with the nodes that were left behind in it. -/
def followAll (steps : List Step) (s : Store) : Session × List Uuid :=
  steps.foldl follow (⟨s, s⟩, [])

/-- An open session on committed rows, with the strays in it. -/
structure Followed (s : Store) (work : Session × List Uuid) : Prop where
  sound : work.1.Sound
  committed : work.1.committed = s
  rows : work.1.current.Tracked work.2

theorem follow_followed (hs : s.Tracked []) (h : Followed s work) (step : Step) :
    Followed s (follow work step) where
  sound := run_sound h.sound (step.tracked h.rows).1.sound (step.tracked h.rows).2
  committed := (run_committed work.1 step.operation).trans h.committed
  rows := by
    rw [follow, run_current_eq]
    cases hundone : (work.1.run step.operation).undone with
    | false => exact (step.tracked h.rows).1
    | true =>
      have hi := Issued.le_trans h.sound.issued_le (step.tracked h.rows).2
      rw [h.committed] at hi ⊢
      exact ⟨restore_sound hs.sound hi, hs.enforces, hs.strays.known, hs.strays.mem_iff⟩

theorem followAll_followed (hs : s.Tracked []) (steps : List Step) :
    Followed s (followAll steps s) :=
  steps.foldlRecOn follow ⟨⟨hs.sound, hs.sound, s.issued.le_refl⟩, rfl, hs⟩
    fun _ h step _ => follow_followed hs h step

end Session

theorem Committed.enforces (h : Committed s) : s.enforces = true := by
  induction h with
  | empty => rfl
  | work h calls ih => exact (Session.workUnit_changes h.sound calls).enforces.trans ih
  | seed h command ih => exact (Seed.transact_changes h.sound command).enforces.trans ih

theorem Committed.tracked (h : Committed s) : s.Tracked [] := ⟨h.sound, h.enforces, h.forest.strays⟩

namespace NodeView

/-- A path is shown as complete if its first node is a root, or if it has none. -/
theorem pathOf_isComplete (ancestors : List Node) : (pathOf ancestors).isComplete = true ↔
    ancestors = [] ∨ (ancestors.head?.getD n).isRoot = true := by
  cases ancestors <;> simp [pathOf]

/-- Of the nodes in an open session, whatever was done in it, those that were left behind are the
ones without ancestors that are no roots. The path of any other node is shown as complete just if
its top is a root, but theirs are shown as complete too. -/
theorem isComplete_iff (hs : Committed s) {steps : List Step} {session : Session}
    (hsteps : Session.followAll steps s = (session, left)) (registry : Registry)
    (includes : List Include) (hi : includes.contains .path = true) (users : Users)
    (hn : n ∈ session.current.nodes) :
    ∃ ancestors view users' path, session.current.primaryPath n = .ok ancestors ∧
      build session.current registry includes users n = .ok (view, users') ∧
      view.path = some path ∧
      (n.id ∈ left ↔ ancestors = [] ∧ n.isRoot = false) ∧
      (path.isComplete = true ↔ (ancestors.head?.getD n).isRoot = true ∨ n.id ∈ left) := by
  have hfollowed := Session.followAll_followed hs.tracked steps
  rw [hsteps] at hfollowed
  have hconstraints := hfollowed.rows.sound.constraints
  obtain ⟨primary, hprimary⟩ := hconstraints.primaryParent_ok n.id
  obtain ⟨ancestors, hpath⟩ := hconstraints.primaryPath_ok n
  obtain ⟨view, users', hbuild, hview⟩ := build_path registry hi users hprimary hpath
  have hleft : n.id ∈ left ↔ ancestors = [] ∧ n.isRoot = false := by
    rw [hfollowed.rows.strays.mem_iff n hn, Stray, ← hconstraints.primaryPath_eq_nil_iff, hpath,
      Except.ok.injEq, and_comm]
  refine ⟨ancestors, view, users', _, hpath, hbuild, hview, hleft, ?_⟩
  rw [pathOf_isComplete (n := n), hleft]
  constructor
  · rintro (rfl | htop)
    · cases hroot : n.isRoot with
      | true => exact .inl hroot
      | false => exact .inr ⟨rfl, rfl⟩
    · exact .inl htop
  · rintro (htop | ⟨hnil, -⟩)
    · exact .inr htop
    · exact .inl hnil

/-- A folder, and a document that was created in it twice: the second stays behind. -/
def documentTwice : List Step :=
  [.call (.createNode { name := some "Home", type := ContentModel.folder, isRoot := true } none),
    .call (.createNode { name := some "notes.txt" } (some (.ofNode 1))),
    .call (.createNode { name := some "notes.txt" } (some (.ofNode 1)))]

def strayDocument : Node :=
  { id := .ofNode 3, name := "notes.txt", type := ContentModel.content.fullForm, properties := []
    isRoot := false, createdBy := none, modifiedBy := none }

theorem isComplete_iff_documentTwice :
    Session.followAll documentTwice {} = ((Session.followAll documentTwice {}).1, [.ofNode 3]) ∧
      ∃ view users', build (Session.followAll documentTwice {}).1.current Filing.plainRegistry
          [.path] [] strayDocument = .ok (view, users') ∧
        (view.path.map (·.isComplete)) = some true := by
  have hsteps : Session.followAll documentTwice {} =
      ((Session.followAll documentTwice {}).1, [.ofNode 3]) := rfl
  have hfound : (Session.followAll documentTwice {}).1.current.node? (.ofNode 3) =
      some strayDocument := rfl
  obtain ⟨ancestors, view, users', path, -, hbuild, hview, -, hcomplete⟩ :=
    isComplete_iff .empty hsteps Filing.plainRegistry [.path] rfl [] (node?_eq_some hfound).1
  refine ⟨hsteps, view, users', hbuild, ?_⟩
  rw [hview, Option.map_some, hcomplete.mpr (.inr (List.mem_singleton_self _))]

/-- The path of the second document has no elements and is shown as complete, although the document
is no root. -/
theorem strayDocument_shownComplete :
    strayDocument.isRoot = false ∧
      (Session.followAll documentTwice {}).1.current.node? (.ofNode 3) = some strayDocument ∧
      (Session.followAll documentTwice {}).1.current.primaryPath strayDocument = .ok [] ∧
      (build (Session.followAll documentTwice {}).1.current Filing.plainRegistry [.path] []
        strayDocument).map (fun shown => shown.1.path) = .ok (some ⟨"/", true, []⟩) := by
  have hpath : (Session.followAll documentTwice {}).1.current.primaryPath strayDocument =
      .ok [] := by
    rw [primaryPath, ancestorsFrom_eq]
    rfl
  refine ⟨rfl, rfl, hpath, ?_⟩
  simp only [build, hpath]
  rfl

end NodeView

end Multifiling
