import Mathlib.Data.List.Chain
import Multifiling.Proofs.Store.Lookup

/-!
Primary associations form a forest that hangs from roots. `Forest` says that a node without a
primary parent is a root, and that primary parents are older than their children; the changes of
`Kind.tidy` keep it. On such a store the primary path of a node is the whole way to a root.
-/

namespace Multifiling.Store

variable {s t : Store} {n : Node}

/-- A primary association leads from one node to another. -/
def PrimaryEdge (s : Store) (parent child : Uuid) : Prop :=
  ∃ a ∈ s.associations, a.isPrimary = true ∧ a.parent = parent ∧ a.child = child

/-- Every node is a root or has a primary parent, and identifiers rise along primary
associations. -/
structure Forest (s : Store) : Prop where
  rooted : ∀ n ∈ s.nodes, n.isRoot = true ∨ ∃ parent, s.PrimaryEdge parent n.id
  older : ∀ {parent child}, s.PrimaryEdge parent child → parent.value < child.value

/-! ### Changes -/

theorem Forest.empty (enforces : Bool) : ({ enforces } : Store).Forest :=
  ⟨nofun, by rintro _ _ ⟨a, ha, -⟩; cases ha⟩

namespace PrimaryEdge

variable {parent child : Uuid} {a : Association}

theorem mono (h : s.PrimaryEdge parent child)
    (hmem : ∀ a ∈ s.associations, a.isPrimary = true → a ∈ t.associations) :
    t.PrimaryEdge parent child := by
  obtain ⟨a, ha, hp, he⟩ := h
  exact ⟨a, hmem a ha hp, hp, he⟩

theorem addAssociation_iff : (s.addAssociation a).PrimaryEdge parent child ↔
    s.PrimaryEdge parent child ∨ a.isPrimary = true ∧ a.parent = parent ∧ a.child = child := by
  simp [PrimaryEdge, addAssociation, or_and_right, exists_or]

end PrimaryEdge

/-- Filing leaves the primary edges as they are. -/
theorem SameTree.primaryEdge_iff (h : SameTree s t) {parent child : Uuid} :
    t.PrimaryEdge parent child ↔ s.PrimaryEdge parent child := by
  have hmem (u : Store) : u.PrimaryEdge parent child ↔
      ∃ a ∈ u.associations.filter (·.isPrimary), a.parent = parent ∧ a.child = child := by
    simp [PrimaryEdge, and_assoc]
  rw [hmem, hmem, h.primaries]

/-- Associations may go as long as the primary ones stay, and others may come. -/
theorem Forest.of_primaries (hf : s.Forest) (hnodes : t.nodes = s.nodes)
    (h : ∀ parent child, t.PrimaryEdge parent child ↔ s.PrimaryEdge parent child) : t.Forest where
  rooted n hn := by
    rw [hnodes] at hn
    exact (hf.rooted n hn).imp_right fun ⟨parent, he⟩ => ⟨parent, (h _ _).mpr he⟩
  older he := hf.older ((h _ _).mp he)

/-- A new root hangs from nothing. -/
theorem Forest.addRoot (hf : s.Forest) (hroot : n.isRoot = true) : (s.addNode n).Forest where
  rooted m hm := by
    rcases List.mem_append.mp hm with hm | hm
    · exact hf.rooted m hm
    · cases List.mem_singleton.mp hm
      exact .inl hroot
  older he := hf.older he

/-- A new node hangs from the parent that it comes with, which is older. -/
theorem Forest.addChild {a : Association} (hf : s.Forest) (hs : s.Numbered)
    (hid : n.id = .ofNode (s.issued.nodes + 1)) (hp : a.isPrimary = true) (hchild : a.child = n.id)
    (ha : (s.addNode n).Accepts a) : ((s.addNode n).addAssociation a).Forest where
  rooted m hm := by
    rcases List.mem_append.mp hm with hm | hm
    · exact (hf.rooted m hm).imp_right fun ⟨parent, he⟩ =>
        ⟨parent, he.mono fun _ h _ => List.mem_append_left _ h⟩
    · cases List.mem_singleton.mp hm
      exact .inr ⟨a.parent, a, List.mem_append_right _ (List.mem_singleton_self a), hp, rfl, hchild⟩
  older he := by
    rcases PrimaryEdge.addAssociation_iff.mp he with he | ⟨-, rfl, rfl⟩
    · exact hf.older he
    · -- the parent is an older row, since the checks exclude the new node itself
      obtain ⟨p, hpmem, hpid⟩ := ha.ends.1
      rcases List.mem_append.mp hpmem with hpmem | hpmem
      · have hle := hs.node_le p hpmem
        rw [← hpid, hchild, hid, Uuid.ofNode]
        simp only
        omega
      · cases List.mem_singleton.mp hpmem
        exact absurd (hpid.symm.trans hchild.symm) ha.apart

theorem Change.forest {k : Kind} (h : Change k s t) (hk : k ∈ Kind.tidy) (hs : s.Numbered)
    (hf : s.Forest) : t.Forest := by
  have hfiling (hk : k ∈ Kind.filing) : t.Forest :=
    hf.of_primaries (h.sameTree hk).nodes fun _ _ => (h.sameTree hk).primaryEdge_iff
  cases h with
  | count | link | unlink => exact hfiling (by decide)
  | user => exact hf.of_primaries rfl fun _ _ => Iff.rfl
  | root _ hroot => exact hf.addRoot hroot
  | child hid hp hchild ha => exact hf.addChild hs hid hp hchild ha
  | clear => exact ⟨nofun, by rintro _ _ ⟨a, ha, -⟩; cases ha⟩
  | stray => simp [Kind.tidy] at hk

theorem Changes.forest (h : Changes Kind.tidy s t) (hs : s.Sound) (hf : s.Forest) : t.Forest := by
  refine (invariant (I := fun u => u.Sound ∧ u.Forest) (fun hk hc hu => ?_) h ⟨hs, hf⟩).2
  exact ⟨(Changes.single hc hk).sound hu.1, hc.forest hk hu.1.numbered hu.2⟩

/-! ### Primary parents -/

theorem primaryParent_eq_some_iff {child : Uuid} {a : Association} :
    s.primaryParent child = .ok (some a) ↔
      (s.associations.filter fun a => a.child = child && a.isPrimary) = [a] := by
  rw [primaryParent]
  split
  · next hnil => simp [hnil]
  · next b hone => simp [hone]
  · next hone =>
    refine iff_of_false (fun h => ?_) (hone a)
    cases h

theorem primaryEdge_of_primaryParent {child : Uuid} {a : Association}
    (h : s.primaryParent child = .ok (some a)) : s.PrimaryEdge a.parent child := by
  have hmem : a ∈ s.associations.filter fun a => a.child = child && a.isPrimary := by
    rw [primaryParent_eq_some_iff.mp h]
    exact List.mem_singleton_self a
  obtain ⟨ha, hcond⟩ := List.mem_filter.mp hmem
  obtain ⟨hchild, hp⟩ := Bool.and_eq_true_iff.mp hcond
  exact ⟨a, ha, hp, rfl, of_decide_eq_true hchild⟩

theorem not_primaryEdge_of_primaryParent {child : Uuid} (h : s.primaryParent child = .ok none)
    (parent : Uuid) : ¬s.PrimaryEdge parent child := by
  rintro ⟨a, ha, hp, -, hchild⟩
  have hmem : a ∈ s.associations.filter fun a => a.child = child && a.isPrimary :=
    List.mem_filter.mpr ⟨ha, by simp [hchild, hp]⟩
  rw [primaryParent] at h
  split at h
  · next hnil => rw [hnil] at hmem; cases hmem
  · cases h
  · cases h

/-- A child has one primary parent at most. -/
def OnePrimary (s : Store) : Prop :=
  s.associations.Pairwise fun a b =>
    ¬(a.isPrimary = true ∧ b.isPrimary = true ∧ a.child = b.child)

/-- Whether a child has a primary parent can then be told. -/
theorem OnePrimary.primaryParent_ok (hs : s.OnePrimary) (child : Uuid) :
    ∃ primary, s.primaryParent child = .ok primary := by
  have hone := hs.filter fun a => a.child = child && a.isPrimary
  have hmem : ∀ a ∈ s.associations.filter fun a => a.child = child && a.isPrimary,
      a.child = child ∧ a.isPrimary = true := by simp
  rw [primaryParent]
  cases h : s.associations.filter fun a => a.child = child && a.isPrimary with
  | nil => exact ⟨none, rfl⟩
  | cons a rest =>
    cases rest with
    | nil => exact ⟨some a, rfl⟩
    | cons b rest =>
      rw [h] at hone hmem
      obtain ⟨hchild, hp⟩ := hmem a List.mem_cons_self
      obtain ⟨hbchild, hbp⟩ := hmem b (by simp)
      exact absurd ⟨hp, hbp, hchild.trans hbchild.symm⟩ (List.rel_of_pairwise_cons hone (by simp))

theorem Constraints.primaryParent_ok (hs : s.Constraints) (child : Uuid) :
    ∃ primary, s.primaryParent child = .ok primary :=
  OnePrimary.primaryParent_ok hs.onePrimary child

/-- A child's primary association is found, and there is no other. -/
theorem Constraints.primaryParent_cases (hs : s.Constraints) (child : Uuid) :
    (s.primaryParent child = .ok none ∧ ∀ parent, ¬s.PrimaryEdge parent child) ∨
    ∃ a, s.primaryParent child = .ok (some a) ∧ s.PrimaryEdge a.parent child ∧
      (s.associations.filter fun a => a.child = child && a.isPrimary) = [a] := by
  obtain ⟨primary, h⟩ := hs.primaryParent_ok child
  cases primary with
  | none => exact .inl ⟨h, not_primaryEdge_of_primaryParent h⟩
  | some a =>
    exact .inr ⟨a, h, primaryEdge_of_primaryParent h, primaryParent_eq_some_iff.mp h⟩

/-- Where a child has one primary parent at most, every walk up ends in a path. -/
theorem Constraints.ancestorsFrom_ok (hs : s.Constraints) (current : Uuid) (seen : List Uuid) :
    ∃ ancestors, s.ancestorsFrom current seen = .ok ancestors := by
  fun_induction s.ancestorsFrom current seen with
  | case1 current seen e hp =>
    obtain ⟨primary, h⟩ := hs.primaryParent_ok current
    rw [hp] at h
    cases h
  | case2 | case3 | case4 => exact ⟨[], rfl⟩
  | case5 current seen a hp hs p hn ih =>
    obtain ⟨ancestors, h⟩ := ih
    exact ⟨p :: ancestors, by rw [h]; rfl⟩

theorem Constraints.primaryPath_ok (hs : s.Constraints) (n : Node) :
    ∃ path, s.primaryPath n = .ok path := by
  obtain ⟨ancestors, h⟩ := hs.ancestorsFrom_ok n.id [n.id]
  exact ⟨ancestors.reverse, by rw [primaryPath, h]; rfl⟩

/-- Older nodes come first among the rows. -/
theorem Numbered.sublist (hs : s.Numbered) {m n : Node} (hm : m ∈ s.nodes) (hn : n ∈ s.nodes)
    (h : m.id.value < n.id.value) : [m, n].Sublist s.nodes := by
  obtain ⟨before, after, hsplit⟩ := List.append_of_mem hm
  have hlt := hs.nodes
  rw [hsplit] at hn hlt ⊢
  rcases List.mem_append.mp hn with hn | hn
  · have := (List.pairwise_append.mp hlt).2.2 n hn m List.mem_cons_self
    omega
  · rcases List.mem_cons.mp hn with rfl | hn
    · omega
    · exact ((List.singleton_sublist.mpr hn).cons_cons m).trans (List.sublist_append_right _ _)

/-- Both ends of a primary edge are nodes, the parent among the rows before the child. -/
theorem Forest.parent_first (hf : s.Forest) (hs : s.Sound) {parent child : Uuid}
    (h : s.PrimaryEdge parent child) :
    ∃ p c, p.id = parent ∧ c.id = child ∧ [p, c].Sublist s.nodes := by
  obtain ⟨a, ha, -, rfl, rfl⟩ := id h
  obtain ⟨⟨p, hp, hpid⟩, c, hc, hcid⟩ := hs.constraints.ends a ha
  refine ⟨p, c, hpid, hcid, hs.numbered.sublist hp hc ?_⟩
  rw [hpid, hcid]
  exact hf.older h

/-- Primary edges form no cycle. -/
theorem Forest.acyclic (hf : s.Forest) (id : Uuid) : ¬Relation.TransGen s.PrimaryEdge id id := by
  have hlt {x y : Uuid} (h : Relation.TransGen s.PrimaryEdge x y) : x.value < y.value := by
    induction h with
    | single he => exact hf.older he
    | tail _ he ih => exact Nat.lt_trans ih (hf.older he)
  exact fun h => Nat.lt_irrefl _ (hlt h)

/-- The oldest node is a root without a parent, since a parent would be older still. -/
theorem Forest.oldest (hf : s.Forest) (hs : s.Sound) {rest : List Node}
    (hnodes : s.nodes = n :: rest) :
    n.isRoot = true ∧ ∀ parent, ¬s.PrimaryEdge parent n.id := by
  have hleast : ∀ m ∈ s.nodes, n.id.value ≤ m.id.value := by
    intro m hm
    rw [hnodes] at hm
    rcases List.mem_cons.mp hm with rfl | hm
    · exact Nat.le_refl _
    · exact Nat.le_of_lt ((List.pairwise_cons.mp (hnodes ▸ hs.numbered.nodes)).1 m hm)
  have hnone : ∀ parent, ¬s.PrimaryEdge parent n.id := by
    intro parent he
    have hlt := hf.older he
    obtain ⟨a, ha, -, hparent, -⟩ := he
    obtain ⟨p, hp, hpid⟩ := (hs.constraints.ends a ha).1
    rw [← hparent, ← hpid] at hlt
    exact Nat.not_lt.mpr (hleast p hp) hlt
  have hn : n ∈ s.nodes := hnodes ▸ List.mem_cons_self
  exact ⟨(hf.rooted n hn).resolve_right fun ⟨parent, he⟩ => hnone parent he, hnone⟩

/-- A store with nodes has a root. -/
theorem Forest.root?_isSome_iff (hf : s.Forest) (hs : s.Sound) :
    s.root?.isSome = true ↔ s.nodes ≠ [] := by
  rw [root?]
  cases hnodes : s.nodes with
  | nil => simp
  | cons n rest =>
    rw [List.find?_cons_of_pos (hf.oldest hs hnodes).1]
    exact iff_of_true rfl (List.cons_ne_nil n rest)

/-! ### Primary paths -/

/-- Only a node without a primary parent has no ancestors: a primary parent is there, and is another
node. -/
theorem Constraints.primaryPath_eq_nil_iff (hs : s.Constraints) :
    s.primaryPath n = .ok [] ↔ ∀ parent, ¬s.PrimaryEdge parent n.id := by
  rw [primaryPath, ancestorsFrom_eq]
  rcases hs.primaryParent_cases n.id with ⟨h, hnone⟩ | ⟨a, h, he, -⟩
  · rw [h]
    exact iff_of_true rfl hnone
  · obtain ⟨b, hb, -, hparent, hchild⟩ := id he
    obtain ⟨p, hp⟩ : ∃ p, s.node? a.parent = some p :=
      Option.isSome_iff_exists.mp (node?_isSome.mpr (hparent ▸ (hs.ends b hb).1))
    have hapart : a.parent ∉ [n.id] := by
      rw [List.mem_singleton, ← hparent, ← hchild]
      exact hs.apart b hb
    rw [h]
    simp only [if_neg hapart, hp]
    refine iff_of_false (fun hnil => ?_) fun hnone => hnone a.parent he
    cases habove : s.ancestorsFrom p.id (p.id :: [n.id]) with
    | error e => rw [habove] at hnil; cases hnil
    | ok above => rw [habove] at hnil; simp [Except.map] at hnil

/-- A list of nodes is the whole way along primary associations from a top, which is a root without
a primary parent, down to a node; the node itself is left out. -/
structure CompletePath (s : Store) (n : Node) (path : List Node) : Prop where
  nodes : ∀ m ∈ path, m ∈ s.nodes
  chain : (path ++ [n]).IsChain fun p c => s.PrimaryEdge p.id c.id
  top : ∃ top, (path ++ [n]).head? = some top ∧ top.isRoot = true ∧
    ∀ parent, ¬s.PrimaryEdge parent top.id

/-- The whole way to a child is the way to its parent, and then the parent. -/
theorem CompletePath.snoc {parent child : Node} {path : List Node}
    (h : s.CompletePath parent path) (hp : parent ∈ s.nodes)
    (he : s.PrimaryEdge parent.id child.id) : s.CompletePath child (path ++ [parent]) where
  nodes m hm := by
    rcases List.mem_append.mp hm with hm | hm
    · exact h.nodes m hm
    · cases List.mem_singleton.mp hm
      exact hp
  chain := by
    refine List.isChain_append.mpr ⟨h.chain, .singleton child, fun x hx y hy => ?_⟩
    rw [List.getLast?_concat] at hx
    cases hx
    cases hy
    exact he
  top := by
    obtain ⟨top, htop, hroot⟩ := h.top
    exact ⟨top, by rw [List.head?_append, htop]; rfl, hroot⟩

/-- The walk from a node of a forest never meets a node that it has passed, since those are
younger, and ends at a root. -/
theorem ancestorsFrom_complete (hs : s.Sound) (hf : s.Forest) (hn : n ∈ s.nodes) (seen : List Uuid)
    (hseen : ∀ id ∈ seen, n.id.value ≤ id.value) :
    ∃ ancestors, s.ancestorsFrom n.id seen = .ok ancestors ∧
      s.CompletePath n ancestors.reverse := by
  -- the induction is on the identifier, since a parent's is smaller; the ones seen are all larger
  induction hk : n.id.value using Nat.strong_induction_on generalizing n seen with
  | h k ih =>
    subst hk
    rw [ancestorsFrom_eq]
    rcases hs.constraints.primaryParent_cases n.id with ⟨h, hnone⟩ | ⟨a, h, he, -⟩
    · rw [h]
      have hroot := (hf.rooted n hn).resolve_right fun ⟨parent, he⟩ => hnone parent he
      exact ⟨[], rfl, nofun, .singleton n, n, rfl, hroot, hnone⟩
    · obtain ⟨p, _, hpid, -, hsub⟩ := hf.parent_first hs he
      have hp : p ∈ s.nodes := hsub.subset List.mem_cons_self
      have hnode : s.node? a.parent = some p := hpid ▸ hs.numbered.node?_eq hp
      have hlt := hf.older he
      have hunseen : a.parent ∉ seen := fun hmem => Nat.not_le.mpr hlt (hseen _ hmem)
      rw [← hpid] at hlt he
      obtain ⟨above, habove, hc⟩ := ih p.id.value hlt hp (p.id :: seen) (fun id hid => by
        rcases List.mem_cons.mp hid with rfl | hid
        · exact Nat.le_refl _
        · exact Nat.le_trans (Nat.le_of_lt hlt) (hseen id hid)) rfl
      refine ⟨p :: above, ?_, ?_⟩
      · rw [h]
        simp only [if_neg hunseen, hnode, habove]
        rfl
      · rw [List.reverse_cons]
        exact hc.snoc hp he

theorem primaryPath_complete (hs : s.Sound) (hf : s.Forest) (hn : n ∈ s.nodes) :
    ∃ path, s.primaryPath n = .ok path ∧ s.CompletePath n path := by
  obtain ⟨ancestors, h, hc⟩ := ancestorsFrom_complete hs hf hn [n.id] (by simp)
  exact ⟨ancestors.reverse, by rw [primaryPath, h]; rfl, hc⟩

end Multifiling.Store
