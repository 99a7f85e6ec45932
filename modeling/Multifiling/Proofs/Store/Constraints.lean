import Multifiling.Proofs.Operation.Insert
import Multifiling.Store.PrimaryPath

/-!
Well-formed stores. `Numbered` says that rows stand in the order of their identifiers and that no
identifier is ahead of the insert counts, so a new row's identifier is new. `Constraints` lists what
a database with foreign keys and unique indexes guarantees of the associations. Rows that go leave
both as they are (`mono`), and so does a row that the checks before an insert have passed.
-/

namespace Multifiling

instance : LE Issued :=
  ⟨fun i j => i.users ≤ j.users ∧ i.nodes ≤ j.nodes ∧ i.associations ≤ j.associations⟩

theorem Issued.le_refl (i : Issued) : i ≤ i := ⟨Nat.le_refl _, Nat.le_refl _, Nat.le_refl _⟩

theorem Issued.le_trans {i j k : Issued} (h₁ : i ≤ j) (h₂ : j ≤ k) : i ≤ k :=
  ⟨Nat.le_trans h₁.1 h₂.1, Nat.le_trans h₁.2.1 h₂.2.1, Nat.le_trans h₁.2.2 h₂.2.2⟩

namespace Store

variable {s t : Store} {a : Association} {n : Node}

/-- An identifier leads to a node. -/
def HasNode (s : Store) (id : Uuid) : Prop := ∃ n ∈ s.nodes, n.id = id

theorem hasNode_of_mem (h : n ∈ s.nodes) : s.HasNode n.id := ⟨n, h, rfl⟩

theorem node?_isSome {id : Uuid} : (s.node? id).isSome ↔ s.HasNode id := by
  simp [node?, HasNode]

/-- Rows stand in the order of their identifiers, none of which is ahead of the insert counts. -/
structure Numbered (s : Store) : Prop where
  nodes : s.nodes.Pairwise fun m n => m.id.value < n.id.value
  node_le : ∀ n ∈ s.nodes, n.id.value ≤ Uuid.nodeBase + s.issued.nodes
  associations : s.associations.Pairwise fun a b => a.id < b.id
  association_le : ∀ a ∈ s.associations, a.id ≤ s.issued.associations

/-- The numbers of associations are a key: no two share one. -/
def Keyed (s : Store) : Prop := s.associations.Pairwise fun a b => a.id ≠ b.id

/-- What the database guarantees of the associations: no node is its own child, a child is linked
to a parent once per type, names are unique per parent and type, a child has one primary parent at
most, and both ends are nodes. -/
structure Constraints (s : Store) : Prop where
  apart : ∀ a ∈ s.associations, a.parent ≠ a.child
  linkedOnce : s.associations.Pairwise fun a b =>
    ¬(a.parent = b.parent ∧ a.child = b.child ∧ a.type = b.type)
  namedOnce : s.associations.Pairwise fun a b =>
    ¬(a.parent = b.parent ∧ a.type = b.type ∧ a.name = b.name)
  onePrimary : s.associations.Pairwise fun a b =>
    ¬(a.isPrimary = true ∧ b.isPrimary = true ∧ a.child = b.child)
  ends : ∀ a ∈ s.associations, s.HasNode a.parent ∧ s.HasNode a.child

/-- What is checked of an association before it is inserted. -/
structure Accepts (s : Store) (a : Association) : Prop where
  id_eq : a.id = s.issued.associations + 1
  apart : a.parent ≠ a.child
  link : ∀ b ∈ s.associations, ¬(b.parent = a.parent ∧ b.child = a.child ∧ b.type = a.type)
  name : ∀ b ∈ s.associations, ¬(b.parent = a.parent ∧ b.type = a.type ∧ b.name = a.name)
  ends : s.HasNode a.parent ∧ s.HasNode a.child

/-- An association is primary only if its child has no other primary parent. -/
def KeepsOnePrimary (s : Store) (a : Association) : Prop :=
  a.isPrimary = true → ∀ b ∈ s.associations, b.isPrimary = true → b.child ≠ a.child

theorem keepsOnePrimary_of_secondary (h : a.isPrimary = false) : s.KeepsOnePrimary a := by
  intro hp
  rw [h] at hp
  cases hp

namespace Numbered

theorem keyed (hs : s.Numbered) : s.Keyed := hs.associations.imp fun hlt => Nat.ne_of_lt hlt

/-- A node is found by its identifier. -/
theorem node?_eq (hs : s.Numbered) (hn : n ∈ s.nodes) : s.node? n.id = some n := by
  obtain ⟨m, hm⟩ := Option.isSome_iff_exists.mp (node?_isSome.mpr (hasNode_of_mem hn))
  obtain ⟨hmem, hid⟩ := node?_eq_some hm
  have hlt := List.pairwise_iff_getElem.mp hs.nodes
  obtain ⟨i, hi, rfl⟩ := List.getElem_of_mem hmem
  obtain ⟨j, hj, rfl⟩ := List.getElem_of_mem hn
  have hij : i = j := by
    rcases Nat.lt_trichotomy i j with h | h | h
    · have := hlt i j hi hj h; rw [hid] at this; omega
    · exact h
    · have := hlt j i hj hi h; rw [hid] at this; omega
  subst hij
  exact hm

/-- The next node's identifier is not taken. -/
theorem fresh (hs : s.Numbered) (hn : n.id = .ofNode (s.issued.nodes + 1)) :
    ¬s.HasNode n.id := by
  rintro ⟨m, hm, h⟩
  have := hs.node_le m hm
  rw [h, hn, Uuid.ofNode] at this
  simp only at this
  omega

theorem mono (hs : s.Numbered) (hn : t.nodes.Sublist s.nodes)
    (ha : t.associations.Sublist s.associations) (hi : s.issued ≤ t.issued) : t.Numbered where
  nodes := hs.nodes.sublist hn
  node_le n h := Nat.le_trans (hs.node_le n (hn.subset h)) (Nat.add_le_add_left hi.2.1 _)
  associations := hs.associations.sublist ha
  association_le a h := Nat.le_trans (hs.association_le a (ha.subset h)) hi.2.2

theorem addNode (hs : s.Numbered) (hn : n.id = .ofNode (s.issued.nodes + 1)) :
    (s.addNode n).Numbered where
  nodes := by
    refine List.pairwise_append.mpr ⟨hs.nodes, List.pairwise_singleton _ _, ?_⟩
    intro m hm k hk
    cases List.mem_singleton.mp hk
    have := hs.node_le m hm
    rw [hn, Uuid.ofNode]
    simp only
    omega
  node_le m hm := by
    simp only [Store.addNode, countNode, List.mem_append, List.mem_singleton] at hm ⊢
    rcases hm with hm | rfl
    · have := hs.node_le m hm; omega
    · simp [hn, Uuid.ofNode]
  associations := hs.associations
  association_le := hs.association_le

theorem addAssociation (hs : s.Numbered) (ha : a.id = s.issued.associations + 1) :
    (s.addAssociation a).Numbered where
  nodes := hs.nodes
  node_le := hs.node_le
  associations := by
    refine List.pairwise_append.mpr ⟨hs.associations, List.pairwise_singleton _ _, ?_⟩
    intro b hb c hc
    cases List.mem_singleton.mp hc
    have := hs.association_le b hb
    omega
  association_le b hb := by
    simp only [Store.addAssociation, countAssociation, List.mem_append, List.mem_singleton] at hb ⊢
    rcases hb with hb | rfl
    · have := hs.association_le b hb; omega
    · omega

end Numbered

namespace Constraints

/-- Associations may go, and nodes and users may come. -/
theorem mono (hs : s.Constraints) (ha : t.associations.Sublist s.associations)
    (hn : ∀ n ∈ s.nodes, n ∈ t.nodes) : t.Constraints where
  apart a h := hs.apart a (ha.subset h)
  linkedOnce := hs.linkedOnce.sublist ha
  namedOnce := hs.namedOnce.sublist ha
  onePrimary := hs.onePrimary.sublist ha
  ends a h := by
    obtain ⟨⟨p, hp, hpi⟩, c, hc, hci⟩ := hs.ends a (ha.subset h)
    exact ⟨⟨p, hn p hp, hpi⟩, c, hn c hc, hci⟩

/-- Without nodes there are no associations either. -/
theorem associations_nil (hs : s.Constraints) (h : s.nodes = []) : s.associations = [] := by
  rw [List.eq_nil_iff_forall_not_mem]
  intro a ha
  obtain ⟨p, hp, -⟩ := (hs.ends a ha).1
  rw [h] at hp
  cases hp

/-- An association that has passed the checks is compatible with all others. -/
theorem addAssociation (hs : s.Constraints) (ha : s.Accepts a) (hp : s.KeepsOnePrimary a) :
    (s.addAssociation a).Constraints where
  apart b hb := by
    rcases List.mem_append.mp hb with hb | hb
    · exact hs.apart b hb
    · cases List.mem_singleton.mp hb; exact ha.apart
  linkedOnce := by
    refine List.pairwise_append.mpr ⟨hs.linkedOnce, List.pairwise_singleton _ _, ?_⟩
    intro b hb c hc
    cases List.mem_singleton.mp hc
    exact ha.link b hb
  namedOnce := by
    refine List.pairwise_append.mpr ⟨hs.namedOnce, List.pairwise_singleton _ _, ?_⟩
    intro b hb c hc
    cases List.mem_singleton.mp hc
    exact ha.name b hb
  onePrimary := by
    refine List.pairwise_append.mpr ⟨hs.onePrimary, List.pairwise_singleton _ _, ?_⟩
    rintro b hb c hc ⟨hpb, hpc, hchild⟩
    cases List.mem_singleton.mp hc
    exact hp hpc b hb hpb hchild
  ends b hb := by
    rcases List.mem_append.mp hb with hb | hb
    · exact hs.ends b hb
    · cases List.mem_singleton.mp hb; exact ha.ends

/-- No association leads to a node that is not there. -/
theorem child_ne (hs : s.Constraints) {id : Uuid} (h : ¬s.HasNode id) :
    ∀ b ∈ s.associations, b.child ≠ id := by
  rintro b hb rfl
  exact h (hs.ends b hb).2

end Constraints

/-- Of an association that has passed the checks, the database only asks that it is not a second
primary one. -/
theorem Accepts.admitsAssociation_iff (ha : s.Accepts a) :
    s.admitsAssociation a = true ↔ s.enforces = false ∨ s.KeepsOnePrimary a := by
  have hcompatible (b : Association) (hb : b ∈ s.associations) : compatible b a = true ↔
      ¬(b.isPrimary = true ∧ a.isPrimary = true ∧ b.child = a.child) := by
    have hlink := ha.link b hb
    have hname := ha.name b hb
    simp only [compatible, Bool.and_eq_true, Bool.not_eq_true', Bool.and_eq_false_imp,
      decide_eq_true_eq, decide_eq_false_iff_not]
    constructor
    · exact fun h ⟨h₁, h₂, h₃⟩ => h.2 ⟨h₁, h₂⟩ h₃
    · exact fun h => ⟨⟨fun h₁ h₂ => hlink ⟨h₁.1, h₁.2, h₂⟩, fun h₁ h₂ => hname ⟨h₁.1, h₁.2, h₂⟩⟩,
        fun h₁ h₂ => h ⟨h₁.1, h₁.2, h₂⟩⟩
  have hall : s.associations.all (compatible · a) = true ↔ s.KeepsOnePrimary a := by
    rw [List.all_eq_true]
    constructor
    · exact fun h hp b hb hbp hchild => (hcompatible b hb).mp (h b hb) ⟨hbp, hp, hchild⟩
    · exact fun h b hb => (hcompatible b hb).mpr fun ⟨hbp, hp, hchild⟩ => h hp b hb hbp hchild
  rw [← hall, Store.admitsAssociation]
  simp [ha.apart, node?_isSome.mpr ha.ends.1, node?_isSome.mpr ha.ends.2]

theorem Accepts.admitsAssociation (ha : s.Accepts a) (hp : s.KeepsOnePrimary a) :
    s.admitsAssociation a = true :=
  ha.admitsAssociation_iff.mpr (.inr hp)

end Store

end Multifiling
