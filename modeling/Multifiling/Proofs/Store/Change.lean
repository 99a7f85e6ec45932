import Mathlib.Logic.Relation
import Multifiling.Proofs.Store.Constraints

/-!
The ways in which rows change. Every operation on the store is a sequence of such changes, and what
a kind of change preserves is shown once, here: `Changes` of any kinds keep a store numbered, and
with its constraints; those of `filing` only append and remove secondary associations; those of
`tidy` leave no node behind without a primary parent.
-/

namespace Multifiling.Store

/-- The kinds of changes. -/
inductive Kind where
  /-- Numbers are taken, without a row. -/
  | count
  | user
  | root
  /-- A node that is no root, without a primary parent. -/
  | stray
  /-- A node with its primary association. -/
  | child
  /-- A secondary association. -/
  | link
  /-- Secondary associations go. -/
  | unlink
  /-- All nodes and associations go. -/
  | clear
  deriving DecidableEq, Repr

/-- One change of the rows. -/
inductive Change : Kind → Store → Store → Prop where
  | count (i : Issued) (h : s.issued ≤ i) : Change .count s { s with issued := i }
  | user (u : User) : Change .user s (s.addUser u)
  | root (hid : n.id = .ofNode (s.issued.nodes + 1)) (hroot : n.isRoot = true) :
    Change .root s (s.addNode n)
  | stray (hid : n.id = .ofNode (s.issued.nodes + 1)) (hroot : n.isRoot = false) :
    Change .stray s (s.addNode n)
  | child (hid : n.id = .ofNode (s.issued.nodes + 1)) (hp : a.isPrimary = true)
    (hchild : a.child = n.id) (ha : (s.addNode n).Accepts a) :
    Change .child s ((s.addNode n).addAssociation a)
  | link (hp : a.isPrimary = false) (ha : s.Accepts a) : Change .link s (s.addAssociation a)
  | unlink (keep : Association → Bool)
    (h : ∀ a ∈ s.associations, a.isPrimary = true → keep a = true) :
    Change .unlink s { s with associations := s.associations.filter keep }
  | clear : Change .clear s s.clear

/-- A sequence of changes, all of certain kinds. -/
def Changes (kinds : List Kind) : Store → Store → Prop :=
  Relation.ReflTransGen fun s t => ∃ k ∈ kinds, Change k s t

/-- The kinds of changes that filing makes. -/
def Kind.filing : List Kind := [.count, .link, .unlink]

/-- The kinds of changes that only add secondary associations. -/
def Kind.adding : List Kind := [.count, .link]

/-- The kinds of changes that making users and nodes makes. -/
def Kind.creating : List Kind := [.count, .user, .root, .stray, .child]

/-- The kinds of changes that keep every node in its place under a root. -/
def Kind.tidy : List Kind := [.count, .user, .root, .child, .link, .unlink, .clear]

/-- The kinds of changes that take no node away. -/
def Kind.growing : List Kind := [.count, .user, .root, .stray, .child, .link, .unlink]

/-- The kinds of changes that do both. -/
def Kind.orderly : List Kind := [.count, .user, .root, .child, .link, .unlink]

variable {s t u : Store}

namespace Changes

variable {kinds kinds' : List Kind}

theorem refl (s : Store) : Changes kinds s s := Relation.ReflTransGen.refl

theorem single {k : Kind} (h : Change k s t) (hk : k ∈ kinds) : Changes kinds s t :=
  Relation.ReflTransGen.single ⟨k, hk, h⟩

theorem trans (h₁ : Changes kinds s t) (h₂ : Changes kinds t u) : Changes kinds s u :=
  Relation.ReflTransGen.trans h₁ h₂

theorem mono (h : Changes kinds s t) (hk : kinds ⊆ kinds') : Changes kinds' s t :=
  Relation.ReflTransGen.mono (fun _ _ ⟨k, hmem, hc⟩ => ⟨k, hk hmem, hc⟩) _ _ h

/-- What every change of the kinds keeps, a sequence keeps. -/
theorem invariant {I : Store → Prop}
    (step : ∀ {k s t}, k ∈ kinds → Change k s t → I s → I t) (h : Changes kinds s t) (hs : I s) :
    I t := by
  induction h with
  | refl => exact hs
  | tail _ hstep ih =>
    obtain ⟨k, hk, hc⟩ := hstep
    exact step hk hc ih

end Changes

/-! ### Numbers and constraints -/

namespace Change

variable {k : Kind}

theorem issued_le (h : Change k s t) : s.issued ≤ t.issued := by
  cases h with
  | count i h => exact h
  | user => exact ⟨Nat.le_succ _, Nat.le_refl _, Nat.le_refl _⟩
  | root | stray => exact ⟨Nat.le_refl _, Nat.le_succ _, Nat.le_refl _⟩
  | child => exact ⟨Nat.le_refl _, Nat.le_succ _, Nat.le_succ _⟩
  | link => exact ⟨Nat.le_refl _, Nat.le_refl _, Nat.le_succ _⟩
  | unlink | clear => exact s.issued.le_refl

theorem hasTables (h : Change k s t) : t.hasTables = s.hasTables := by
  cases h <;> rfl

theorem enforces (h : Change k s t) : t.enforces = s.enforces := by
  cases h <;> rfl

theorem numbered (h : Change k s t) (hs : s.Numbered) : t.Numbered := by
  have hi := h.issued_le
  cases h with
  | count | user => exact hs.mono (.refl _) (.refl _) hi
  | root hid | stray hid => exact hs.addNode hid
  | child hid _ _ ha => exact (hs.addNode hid).addAssociation ha.id_eq
  | link _ ha => exact hs.addAssociation ha.id_eq
  | unlink => exact hs.mono (.refl _) List.filter_sublist hi
  | clear => exact hs.mono (List.nil_sublist _) (List.nil_sublist _) hi

theorem constraints (h : Change k s t) (hn : k = .child → s.Numbered) (hs : s.Constraints) :
    t.Constraints := by
  cases h with
  | count | user => exact hs.mono (.refl _) fun _ h => h
  | root | stray => exact hs.mono (.refl _) fun _ h => List.mem_append_left _ h
  | @child _ n _ hid _ hchild ha =>
    -- the child is new, so no association leads to it yet
    have hadd := hs.mono (t := s.addNode n) (.refl _) fun _ h => List.mem_append_left _ h
    refine hadd.addAssociation ha fun _ b hb _ => ?_
    rw [hchild]
    exact hs.child_ne ((hn rfl).fresh hid) b hb
  | link hp ha => exact hs.addAssociation ha (keepsOnePrimary_of_secondary hp)
  | unlink => exact hs.mono List.filter_sublist fun _ h => h
  | clear =>
    exact ⟨nofun, .nil, .nil, .nil, nofun⟩

end Change

/-- A store in good order. -/
structure Sound (s : Store) : Prop where
  numbered : s.Numbered
  constraints : s.Constraints

theorem Sound.keyed (hs : s.Sound) : s.Keyed := hs.numbered.keyed

theorem Sound.empty (enforces : Bool) : ({ enforces } : Store).Sound :=
  ⟨⟨.nil, nofun, .nil, nofun⟩, nofun, .nil, .nil, .nil, nofun⟩

namespace Changes

variable {kinds : List Kind}

theorem issued_le (h : Changes kinds s t) : s.issued ≤ t.issued :=
  invariant (I := fun u => s.issued ≤ u.issued) (fun _ hc hs => Issued.le_trans hs hc.issued_le) h
    s.issued.le_refl

theorem hasTables (h : Changes kinds s t) : t.hasTables = s.hasTables :=
  invariant (I := fun u => u.hasTables = s.hasTables) (fun _ hc hs => hc.hasTables.trans hs) h rfl

theorem enforces (h : Changes kinds s t) : t.enforces = s.enforces :=
  invariant (I := fun u => u.enforces = s.enforces) (fun _ hc hs => hc.enforces.trans hs) h rfl

theorem sound (h : Changes kinds s t) (hs : s.Sound) : t.Sound :=
  invariant (fun _ hc hs =>
    ⟨hc.numbered hs.numbered, hc.constraints (fun _ => hs.numbered) hs.constraints⟩) h hs

/-- Without new nodes, the constraints do not depend on the order of the rows. -/
theorem constraints (h : Changes kinds s t) (hk : .child ∉ kinds) (hs : s.Constraints) :
    t.Constraints :=
  invariant (fun hmem hc hs => hc.constraints (fun heq => absurd (heq ▸ hmem) hk) hs) h hs

/-- Associations that are added come last. -/
theorem associations_prefix (h : Changes Kind.adding s t) : s.associations <+: t.associations := by
  refine invariant (I := fun u => s.associations <+: u.associations) (fun hk hc hu => ?_) h
    (List.prefix_refl _)
  cases hc with
  | count => exact hu
  | link => exact hu.trans (List.prefix_append _ _)
  | user | root | stray | child | unlink | clear => simp [Kind.adding] at hk

/-- Nodes stay, unless all are removed. -/
theorem mem_nodes (h : Changes kinds s t) (hk : .clear ∉ kinds) {n : Node} (hn : n ∈ s.nodes) :
    n ∈ t.nodes := by
  refine invariant (I := fun u => n ∈ u.nodes) (fun hmem hc hu => ?_) h hn
  cases hc with
  | count | user | link | unlink => exact hu
  | root | stray | child => exact List.mem_append_left _ hu
  | clear => exact absurd hmem hk

theorem hasNode (h : Changes kinds s t) (hk : .clear ∉ kinds) {id : Uuid} (hid : s.HasNode id) :
    t.HasNode id := by
  obtain ⟨n, hn, rfl⟩ := hid
  exact hasNode_of_mem (h.mem_nodes hk hn)

/-- Only linking makes secondary associations. -/
theorem mem_secondary (h : Changes kinds s t) (hk : .link ∉ kinds) {a : Association}
    (ha : a ∈ t.associations) (hp : a.isPrimary = false) : a ∈ s.associations := by
  refine invariant (I := fun u => a ∈ u.associations → a ∈ s.associations)
    (fun hmem hc hu ha => ?_) h id ha
  cases hc with
  | count | user | root | stray => exact hu ha
  | child _ hprimary =>
    refine hu ((List.mem_append.mp ha).resolve_right fun h => ?_)
    rw [List.mem_singleton.mp h, hprimary] at hp
    cases hp
  | link => exact absurd hmem hk
  | unlink => exact hu (List.mem_filter.mp ha).1
  | clear => cases ha

end Changes

/-! ### Filing -/

/-- Filing leaves the users, the nodes and the primary associations as they are. -/
structure SameTree (s t : Store) : Prop where
  users : t.users = s.users
  nodes : t.nodes = s.nodes
  hasTables : t.hasTables = s.hasTables
  primaries : t.associations.filter (·.isPrimary) = s.associations.filter (·.isPrimary)

namespace SameTree

theorem refl (s : Store) : SameTree s s := ⟨rfl, rfl, rfl, rfl⟩

theorem trans (h₁ : SameTree s t) (h₂ : SameTree t u) : SameTree s u :=
  ⟨h₂.users.trans h₁.users, h₂.nodes.trans h₁.nodes, h₂.hasTables.trans h₁.hasTables,
    h₂.primaries.trans h₁.primaries⟩

end SameTree

theorem Change.sameTree {k : Kind} (h : Change k s t) (hk : k ∈ Kind.filing) : SameTree s t := by
  cases h with
  | count => exact ⟨rfl, rfl, rfl, rfl⟩
  | link hp => exact ⟨rfl, rfl, rfl, by simp [addAssociation, hp]⟩
  | unlink keep h =>
    refine ⟨rfl, rfl, rfl, ?_⟩
    rw [List.filter_filter]
    refine List.filter_congr fun a ha => ?_
    cases hp : a.isPrimary with
    | false => rfl
    | true => simp [h a ha hp]
  | user | root | stray | child | clear => simp [Kind.filing] at hk

theorem Changes.sameTree {kinds : List Kind} (h : Changes kinds s t) (hk : kinds ⊆ Kind.filing) :
    SameTree s t :=
  invariant (I := SameTree s) (fun hmem hc hs => hs.trans (hc.sameTree (hk hmem))) h (.refl s)

end Multifiling.Store
