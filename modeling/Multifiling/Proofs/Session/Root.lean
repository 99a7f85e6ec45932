import Multifiling.Proofs.Filing.Change
import Multifiling.Proofs.Store.Forest

/-!
The root of a repository. There is one root, it has no parent, and the way to every node begins at
the node that the root's alias names: this holds just as long as not more than one node was created
as a root (`Planted.oneRoot_iff`). Creating another is not refused, be it without a parent or under
one (`threeRoots_apart`).
-/

namespace Multifiling
open Store Operation

variable {s t : Store} {n : Node}

namespace Store

/-- There is one root at most, it has no parent, and the way to every other node begins at the node
that the root's alias names. -/
structure OneRoot (s : Store) : Prop where
  unique : (s.nodes.filter (·.isRoot)).length ≤ 1
  parentless : ∀ n ∈ s.nodes, n.isRoot = true → s.primaryParent n.id = .ok none
  begins : ∀ n ∈ s.nodes, n.isRoot = false →
    ∃ root rest, s.lookup (some rootAlias) = .ok root ∧ s.primaryPath n = .ok (root :: rest)

theorem lookup_rootAlias (ht : s.hasTables = true) {root : Node} (h : s.root? = some root) :
    s.lookup (some rootAlias) = .ok root := by
  simp only [lookup, queried, if_true, ht, h, bind, Except.bind]

/-- Roots are the same where there is one at most. -/
theorem root_eq {m : Node} (hone : (s.nodes.filter (·.isRoot)).length ≤ 1) (hm : m ∈ s.nodes)
    (hmroot : m.isRoot = true) (hn : n ∈ s.nodes) (hnroot : n.isRoot = true) : m = n := by
  have hm' : m ∈ s.nodes.filter (·.isRoot) := List.mem_filter.mpr ⟨hm, hmroot⟩
  have hn' : n ∈ s.nodes.filter (·.isRoot) := List.mem_filter.mpr ⟨hn, hnroot⟩
  match hroots : s.nodes.filter (·.isRoot) with
  | [] =>
    rw [hroots] at hm'
    cases hm'
  | [root] =>
    rw [hroots] at hm' hn'
    rw [List.mem_singleton.mp hm', List.mem_singleton.mp hn']
  | _ :: _ :: _ =>
    rw [hroots] at hone
    simp at hone

/-- The only root of a forest is its oldest node, and all complete paths begin there. -/
theorem Forest.oneRoot (hf : s.Forest) (hs : s.Sound) (ht : s.hasTables = true)
    (hone : (s.nodes.filter (·.isRoot)).length ≤ 1) : s.OneRoot where
  unique := hone
  parentless n hn hroot := by
    obtain ⟨oldest, rest, hnodes⟩ := List.exists_cons_of_ne_nil (List.ne_nil_of_mem hn)
    obtain ⟨holdest, hnone⟩ := hf.oldest hs hnodes
    have heq : n = oldest := root_eq hone hn hroot (hnodes ▸ List.mem_cons_self) holdest
    rcases hs.constraints.primaryParent_cases n.id with ⟨h, -⟩ | ⟨a, -, he, -⟩
    · exact h
    · rw [heq] at he
      exact absurd he (hnone a.parent)
  begins n hn hroot := by
    obtain ⟨path, hpath, hc⟩ := primaryPath_complete hs hf hn
    obtain ⟨top, htop, htoproot, -⟩ := hc.top
    cases path with
    | nil =>
      -- the node would be its own top, and so a root
      cases htop
      rw [hroot] at htoproot
      cases htoproot
    | cons first rest =>
      obtain rfl : first = top := Option.some.inj htop
      have hfirst : first ∈ s.nodes := hc.nodes first List.mem_cons_self
      obtain ⟨root, hfound⟩ := Option.isSome_iff_exists.mp
        ((hf.root?_isSome_iff hs).mpr (List.ne_nil_of_mem hn))
      have hrootmem : root ∈ s.nodes := List.mem_of_find?_eq_some hfound
      have heq : root = first :=
        root_eq hone hrootmem (List.find?_some hfound) hfirst htoproot
      exact ⟨root, rest, lookup_rootAlias ht hfound, heq ▸ hpath⟩

end Store

/-- The rows that a session can hold, from an empty store on, after making users and nodes, each of
which was made, and after filing and unfiling, also where that failed. The number is that of the
nodes that were created as roots. -/
inductive Planted : Nat → Store → Prop where
  | empty : Planted 0 {}
  | user {roots : Nat} {s t : Store} (h : Planted roots s) {draft : UserDraft} {u : User}
    (hrun : (insertUser draft).run s = .ok u t) : Planted roots t
  | node {roots : Nat} {s t : Store} (h : Planted roots s) {new : NewNode} {parent : Option Node}
    {parentAtHand : Bool} {n : Node}
    (hrun : (createNode new parent parentAtHand).run s = .ok n t) :
    Planted (roots + new.isRoot.toNat) t
  | file {roots : Nat} {s : Store} (h : Planted roots s) (registry : Registry) (parentId : String)
    (links : List ChildLink) : Planted roots ((Filing.create registry parentId links).after s)
  | unfile {roots : Nat} {s : Store} (h : Planted roots s) (registry : Registry)
    (parentId childId : String) (assocType : Option String) :
    Planted roots ((Filing.delete registry parentId childId assocType).after s)

namespace Planted

variable {roots : Nat}

/-- Whichever nodes are created as roots, none is left without its place in the forest. -/
theorem changes (h : Planted roots s) : Changes Kind.orderly {} s := by
  induction h with
  | empty => exact .refl {}
  | user _ hrun ih =>
    rw [insertUser_ok hrun]
    exact ih.trans (.single (.user _) (by decide))
  | node _ hrun ih =>
    have hparent := (createNode_made hrun).2.2 ih.enforces
    exact ih.trans ((createNode_ok (ih.sound (.empty true)) hparent hrun).1.mono (by decide))
  | file _ registry parentId links ih =>
    exact ih.trans ((Filing.create_after registry parentId links _).mono (by decide))
  | unfile _ registry parentId childId assocType ih =>
    exact ih.trans ((Filing.delete_after registry parentId childId assocType _).mono (by decide))

theorem sound (h : Planted roots s) : s.Sound := h.changes.sound (.empty true)

theorem forest (h : Planted roots s) : s.Forest :=
  (h.changes.mono (by decide)).forest (.empty true) (.empty true)

theorem length_roots (h : Planted roots s) : (s.nodes.filter (·.isRoot)).length = roots := by
  induction h with
  | empty => rfl
  | user _ hrun ih =>
    rw [insertUser_ok hrun]
    exact ih
  | @node _ _ _ _ new _ _ n hrun ih =>
    obtain ⟨hnodes, hroot, -⟩ := createNode_made hrun
    rw [hnodes, List.filter_append, List.length_append, ih, ← hroot]
    cases hn : n.isRoot with
    | true => simp [hn]
    | false => simp [hn]
  | file _ registry parentId links ih =>
    rw [((Filing.create_after registry parentId links _).sameTree (by decide)).nodes]
    exact ih
  | unfile _ registry parentId childId assocType ih =>
    rw [((Filing.delete_after registry parentId childId assocType _).sameTree (by decide)).nodes]
    exact ih

/-- The repository has its one root just if not more than one node was created as a root. -/
theorem oneRoot_iff (h : Planted roots s) : s.OneRoot ↔ roots ≤ 1 := by
  constructor
  · intro hone
    rw [← h.length_roots]
    exact hone.unique
  · intro hroots
    rw [← h.length_roots] at hroots
    exact h.forest.oneRoot h.sound h.changes.hasTables hroots

/-- A node that can be created is. -/
theorem node_after (h : Planted roots s) (new : NewNode) (parent : Option Node)
    (hok : (createNode new parent).succeeds s = true) :
    Planted (roots + new.isRoot.toNat) ((createNode new parent).after s) := by
  obtain ⟨n, hrun⟩ := run_of_succeeds hok
  exact h.node hrun

/-! ### Stores with one root, and with more -/

def home : NewNode := { name := some "Home", type := ContentModel.folder, isRoot := true }

def annex : NewNode := { name := some "Annex", type := ContentModel.folder, isRoot := true }

def vault : NewNode := { name := some "Vault", type := ContentModel.folder, isRoot := true }

def notes : NewNode := { name := some "notes.txt" }

def homeAlone : Store := (createNode home none).after {}

theorem homeAlone_planted : Planted 1 homeAlone := .node_after .empty home none (by decide)

/-- A document in the only root. -/
def homeWithNotes : Store :=
  (createNode notes (homeAlone.node? (.ofNode 1))).after homeAlone

theorem homeWithNotes_oneRoot :
    Planted 1 homeWithNotes ∧ homeWithNotes.nodes.length = 2 ∧ homeWithNotes.OneRoot := by
  have h : Planted 1 homeWithNotes := homeAlone_planted.node_after notes _ (by decide)
  exact ⟨h, by decide, h.oneRoot_iff.mpr (Nat.le_refl 1)⟩

/-- A second root beside the first. -/
def twoRoots : Store := (createNode annex none).after homeAlone

/-- A third root under the second. -/
def threeRoots : Store := (createNode vault (twoRoots.node? (.ofNode 2))).after twoRoots

/-- Roots that were created one after the other: the alias names the first, and the last has a
parent, which is another. -/
theorem threeRoots_apart :
    Planted 3 threeRoots ∧ ¬threeRoots.OneRoot ∧
      (threeRoots.lookup (some rootAlias)).map (·.id) = .ok (.ofNode 1) ∧
      (threeRoots.primaryParent (.ofNode 3)).map (·.map (·.parent)) = .ok (some (.ofNode 2)) := by
  have htwo : Planted 2 twoRoots := homeAlone_planted.node_after annex none (by decide)
  have h : Planted 3 threeRoots := htwo.node_after vault _ (by decide)
  refine ⟨h, fun hone => ?_, by decide, by decide⟩
  exact absurd (h.length_roots ▸ hone.unique) (by omega)

end Planted

end Multifiling
