import Multifiling.Store

/-!
Primary paths: the way from a node to the top along primary associations. The walk remembers the
nodes that it has passed, so it ends on every store, also where associations form a cycle.
-/

namespace Multifiling.Store

/-- The nodes that a walk has not yet passed. -/
def unseen (s : Store) (seen : List Uuid) : List Node :=
  s.nodes.filter fun n => !seen.contains n.id

theorem node?_eq_some {s : Store} {id : Uuid} {n : Node} (h : s.node? id = some n) :
    n ∈ s.nodes ∧ n.id = id :=
  ⟨List.mem_of_find?_eq_some h, by simpa using List.find?_some h⟩

/-- Passing one more node takes just that one from those not yet passed. -/
theorem unseen_cons (s : Store) (id : Uuid) (seen : List Uuid) :
    s.unseen (id :: seen) = (s.unseen seen).filter fun n => n.id ≠ id := by
  simp only [unseen, List.filter_filter]
  congr 1
  funext n
  simp

/-- Passing a node that is in the store leaves fewer nodes to pass. -/
theorem length_unseen_cons_lt {s : Store} {seen : List Uuid} {n : Node} (hn : n ∈ s.nodes)
    (hseen : n.id ∉ seen) : (s.unseen (n.id :: seen)).length < (s.unseen seen).length := by
  rw [unseen_cons, List.length_filter_lt_length_iff_exists]
  exact ⟨n, by simp [unseen, hn, hseen], by simp⟩

/-- The ancestors of a node, nearest first, up to one without primary parent; `seen` holds what has
been passed. -/
def ancestorsFrom (s : Store) (current : Uuid) (seen : List Uuid) : Except Failure (List Node) :=
  match s.primaryParent current with
  | .error e => .error e
  | .ok none => .ok []
  | .ok (some a) =>
    -- a cycle is not gone round twice
    if _hseen : a.parent ∈ seen then .ok []
    else
      match _hnode : s.node? a.parent with
      | none => .ok []
      | some parent => (s.ancestorsFrom parent.id (parent.id :: seen)).map (parent :: ·)
termination_by (s.unseen seen).length
decreasing_by
  have h := node?_eq_some _hnode
  exact length_unseen_cons_lt h.1 (h.2 ▸ _hseen)

/-- The ancestors of a node along primary associations, topmost first, without the node itself. -/
def primaryPath (s : Store) (n : Node) : Except Failure (List Node) :=
  (s.ancestorsFrom n.id [n.id]).map List.reverse

end Multifiling.Store
