import Mathlib.Data.List.Nodup
import Multifiling.Proofs.Operation.Run
import Multifiling.Proofs.Store.Forest

/-!
The walk up from a node, turn by turn. Every turn but the last passes one more node, so the walk
ends after at most as many turns as there are nodes, also where primary associations form a ring
(`climb_eq`). What has been passed is after every turn a way along primary associations that meets
no node twice (`Follows`); the walk ends only where it cannot go on (`primaryPath_ends`).
-/

namespace Multifiling.Store

variable {s : Store} {n : Node}

/-- Where a walk up stands: the node that it has reached, the nodes that it has passed, and its
ancestors so far, nearest first. -/
structure Ascent where
  current : Uuid
  seen : List Uuid
  ancestors : List Node

namespace Ascent

def start (n : Node) : Ascent := ⟨n.id, [n.id], []⟩

/-- The walk, one node further up. -/
def up (w : Ascent) (parent : Node) : Ascent :=
  ⟨parent.id, parent.id :: w.seen, w.ancestors ++ [parent]⟩

/-- One turn: the walk goes one node further up, or ends. -/
def turn (s : Store) (w : Ascent) : Except Failure (Option Ascent) :=
  match s.primaryParent w.current with
  | .error e => .error e
  | .ok none => .ok none
  | .ok (some a) => if a.parent ∈ w.seen then .ok none else .ok ((s.node? a.parent).map w.up)

/-- All that a turn can come to. -/
inductive Turned (s : Store) (w : Ascent) : Except Failure (Option Ascent) → Prop where
  | failed {e : Failure} (h : s.primaryParent w.current = .error e) : Turned s w (.error e)
  | top (h : s.primaryParent w.current = .ok none) : Turned s w (.ok none)
  | again {a : Association} (h : s.primaryParent w.current = .ok (some a))
    (hseen : a.parent ∈ w.seen) : Turned s w (.ok none)
  | lost {a : Association} (h : s.primaryParent w.current = .ok (some a))
    (hseen : a.parent ∉ w.seen) (hnode : s.node? a.parent = none) : Turned s w (.ok none)
  | further {a : Association} {p : Node} (h : s.primaryParent w.current = .ok (some a))
    (hseen : a.parent ∉ w.seen) (hnode : s.node? a.parent = some p) :
    Turned s w (.ok (some (w.up p)))

theorem turn_turned (s : Store) (w : Ascent) : Turned s w (w.turn s) := by
  rw [turn]
  cases hp : s.primaryParent w.current with
  | error e => exact .failed hp
  | ok primary =>
    cases primary with
    | none => exact .top hp
    | some a =>
      simp only
      split
      · next hseen => exact .again hp hseen
      · next hseen =>
        cases hnode : s.node? a.parent with
        | none => exact .lost hp hseen hnode
        | some p => exact .further hp hseen hnode

end Ascent

/-- The path that a walk ends with, if it ends within so many turns. -/
def climb (s : Store) : Nat → Ascent → Option (Except Failure (List Node))
  | 0, _ => none
  | turns + 1, w =>
    match w.turn s with
    | .error e => some (.error e)
    | .ok none => some (.ok w.ancestors.reverse)
    | .ok (some w') => s.climb turns w'

/-! ### The end of the walk -/

/-- A walk has ended once it has had more turns than there were nodes to pass, and then with the
ancestors that were left to be found. -/
theorem climb_eq {turns : Nat} {w : Ascent} (h : (s.unseen w.seen).length < turns) :
    s.climb turns w =
      some ((s.ancestorsFrom w.current w.seen).map fun above => (w.ancestors ++ above).reverse) := by
  induction turns generalizing w with
  | zero => exact absurd h (Nat.not_lt_zero _)
  | succ turns ih =>
    rw [climb, ancestorsFrom_eq]
    have hturned := Ascent.turn_turned s w
    generalize w.turn s = next at hturned
    cases hturned with
    | failed hp => rw [hp]; rfl
    | top hp => simp [hp, Except.map]
    | again hp hseen => simp [hp, hseen, Except.map]
    | lost hp hseen hnode => simp [hp, hseen, hnode, Except.map]
    | @further a p hp hseen hnode =>
      obtain ⟨hmem, hid⟩ := node?_eq_some hnode
      have hfewer := length_unseen_cons_lt hmem (hid ▸ hseen)
      have hrest := ih (w := w.up p) (Nat.lt_of_lt_of_le hfewer (Nat.le_of_lt_succ h))
      simp only [hp, if_neg hseen, hnode]
      rw [hrest]
      simp only [Ascent.up]
      cases s.ancestorsFrom p.id (p.id :: w.seen) <;> simp [Except.map]

/-- From a node of the store, the walk ends within as many turns as there are nodes. -/
theorem climb_start (hn : n ∈ s.nodes) :
    s.climb s.nodes.length (.start n) = some (s.primaryPath n) := by
  have hall : s.unseen [] = s.nodes := by simp [unseen]
  have hfewer : (s.unseen [n.id]).length < (s.unseen []).length :=
    length_unseen_cons_lt hn List.not_mem_nil
  rw [hall] at hfewer
  exact climb_eq hfewer

/-! ### The way of the walk -/

/-- A list of nodes is a way along primary associations down to a node, on which no node stands
twice; the node itself is left out. -/
structure WayUp (s : Store) (n : Node) (path : List Node) : Prop where
  nodes : ∀ m ∈ path, m ∈ s.nodes
  once : ((path ++ [n]).map (·.id)).Nodup
  chain : (path ++ [n]).IsChain fun p c => s.PrimaryEdge p.id c.id

theorem WayUp.cons {p : Node} {path : List Node} (h : s.WayUp n path) (hp : p ∈ s.nodes)
    (hnew : p.id ∉ (path ++ [n]).map (·.id))
    (he : ∀ top ∈ (path ++ [n]).head?, s.PrimaryEdge p.id top.id) : s.WayUp n (p :: path) where
  nodes := List.forall_mem_cons.mpr ⟨hp, h.nodes⟩
  once := List.nodup_cons.mpr ⟨hnew, h.once⟩
  chain := h.chain.cons he

/-- A way cannot be gone on with: its top has no primary parent, or one that stands on the way. -/
def EndsAtTop (s : Store) (n : Node) (path : List Node) : Prop :=
  ∃ top ∈ (path ++ [n]).head?,
    (∀ parent, ¬s.PrimaryEdge parent top.id) ∨ ∃ m ∈ path ++ [n], s.PrimaryEdge m.id top.id

namespace Ascent

variable {w w' : Ascent}

/-- A walk from `n` has passed the nodes of a way, and has reached its top. -/
structure Follows (s : Store) (n : Node) (w : Ascent) : Prop where
  way : s.WayUp n w.ancestors.reverse
  passed : w.seen = (w.ancestors.reverse ++ [n]).map (·.id)
  reached : w.seen.head? = some w.current

namespace Follows

theorem start (s : Store) (n : Node) : Follows s n (.start n) where
  way := ⟨nofun, List.nodup_singleton _, .singleton n⟩
  passed := rfl
  reached := rfl

/-- The node that is reached is the top of the way. -/
theorem exists_top (h : Follows s n w) :
    ∃ top, (w.ancestors.reverse ++ [n]).head? = some top ∧ top.id = w.current := by
  have hreached := h.reached
  rw [h.passed, List.head?_map, Option.map_eq_some_iff] at hreached
  exact hreached

theorem turn (h : Follows s n w) (hturn : w.turn s = .ok (some w')) : Follows s n w' := by
  have hturned := turn_turned s w
  rw [hturn] at hturned
  cases hturned with
  | @further a p hp hseen hnode =>
    obtain ⟨hmem, hid⟩ := node?_eq_some hnode
    have hedge : s.PrimaryEdge p.id w.current := hid ▸ primaryEdge_of_primaryParent hp
    obtain ⟨top, htop, hcurrent⟩ := h.exists_top
    have hway : s.WayUp n (p :: w.ancestors.reverse) := by
      refine h.way.cons hmem (h.passed ▸ hid ▸ hseen) fun t ht => ?_
      obtain rfl : top = t := Option.some.inj (htop.symm.trans ht)
      exact hcurrent ▸ hedge
    have hreverse : (w.up p).ancestors.reverse = p :: w.ancestors.reverse := by simp [up]
    exact ⟨hreverse ▸ hway, by rw [hreverse, up, h.passed]; rfl, rfl⟩

/-- Where parents are nodes, the walk ends at a top only. -/
theorem endsAtTop (hends : ∀ a ∈ s.associations, s.HasNode a.parent) (h : Follows s n w)
    (hturn : w.turn s = .ok none) : s.EndsAtTop n w.ancestors.reverse := by
  obtain ⟨top, htop, hcurrent⟩ := h.exists_top
  refine ⟨top, htop, ?_⟩
  rw [hcurrent]
  have hturned := turn_turned s w
  rw [hturn] at hturned
  cases hturned with
  | top hp => exact .inl (not_primaryEdge_of_primaryParent hp)
  | again hp hseen =>
    rw [h.passed] at hseen
    obtain ⟨m, hm, hid⟩ := List.mem_map.mp hseen
    exact .inr ⟨m, hm, hid ▸ primaryEdge_of_primaryParent hp⟩
  | lost hp hseen hnode =>
    obtain ⟨b, hb, -, hparent, -⟩ := primaryEdge_of_primaryParent hp
    have hfound := node?_isSome.mpr (hends b hb)
    rw [hparent, hnode] at hfound
    cases hfound

/-- A walk that ends has come to the top of a way. -/
theorem climb (hone : s.OnePrimary) (hends : ∀ a ∈ s.associations, s.HasNode a.parent)
    {turns : Nat} {outcome : Except Failure (List Node)} (h : Follows s n w)
    (hclimb : s.climb turns w = some outcome) :
    ∃ path, outcome = .ok path ∧ s.WayUp n path ∧ s.EndsAtTop n path := by
  induction turns generalizing w with
  | zero => cases hclimb
  | succ turns ih =>
    rw [Store.climb] at hclimb
    split at hclimb
    · next e hturn =>
      have hturned := turn_turned s w
      rw [hturn] at hturned
      cases hturned with
      | failed hp =>
        obtain ⟨primary, hok⟩ := hone.primaryParent_ok w.current
        cases hp.symm.trans hok
    · next hturn =>
      cases hclimb
      exact ⟨_, rfl, h.way, h.endsAtTop hends hturn⟩
    · next w' hturn => exact ih (h.turn hturn) hclimb

end Follows

end Ascent

/-- Where no child has two primary parents, the walk up from a node ends within as many turns as
there are nodes, whatever rings primary associations form. Its path is a way along primary
associations on which no node stands twice, and it goes up as far as such a way can go. -/
theorem primaryPath_ends (hone : s.OnePrimary) (hends : ∀ a ∈ s.associations, s.HasNode a.parent)
    (hn : n ∈ s.nodes) :
    ∃ path, s.climb s.nodes.length (.start n) = some (.ok path) ∧ s.primaryPath n = .ok path ∧
      s.WayUp n path ∧ s.EndsAtTop n path := by
  have hclimb := climb_start hn
  obtain ⟨path, hpath, hway, htop⟩ := (Ascent.Follows.start s n).climb hone hends hclimb
  exact ⟨path, hpath ▸ hclimb, hpath, hway, htop⟩

/-- A root and a folder that are each other's primary parents, and a document in the folder. -/
def ring : Store :=
  Operation.after (do
    let home ← Operation.createNode
      { name := some "Home", type := ContentModel.folder, isRoot := true } none
    let inbox ← Operation.createNode { name := some "Inbox", type := ContentModel.folder } (some home)
    let _ ← Operation.createNode { name := some "a.txt" } (some inbox)
    Operation.addChild inbox home ContentModel.contains
      ⟨ContentModel.contentUri, "Home", by decide⟩ true) {}

theorem primaryPath_ends_ring :
    ring.OnePrimary ∧ (∀ a ∈ ring.associations, ring.HasNode a.parent) ∧ ring.nodes.length = 3 ∧
      ∃ document path, ring.node? (.ofNode 3) = some document ∧
        ring.climb 3 (.start document) = some (.ok path) ∧
        path.map (·.id) = [.ofNode 1, .ofNode 2] ∧ ring.primaryPath document = .ok path ∧
        ring.WayUp document path ∧ ring.EndsAtTop document path := by
  have hone : ring.OnePrimary := by
    unfold OnePrimary
    decide +kernel
  have hends : ∀ a ∈ ring.associations, ring.HasNode a.parent := by
    simp only [← node?_isSome]
    decide +kernel
  obtain ⟨document, hdocument⟩ : ∃ document, ring.node? (.ofNode 3) = some document := ⟨_, rfl⟩
  obtain ⟨path, hclimb, hpath, hway, htop⟩ :=
    primaryPath_ends hone hends (node?_eq_some hdocument).1
  refine ⟨hone, hends, rfl, document, path, hdocument, hclimb, ?_, hpath, hway, htop⟩
  cases hdocument
  cases hclimb
  rfl

end Multifiling.Store
