import Multifiling.Proofs.Store.Constraints

/-!
Edges: what an association says, without its number. Whether a link conflicts with what is there
depends on the edges of its parent alone.
-/

namespace Multifiling

/-- What an association says, beside its number. -/
structure Edge where
  parent : Uuid
  child : Uuid
  type : String
  name : String
  isPrimary : Bool
  deriving DecidableEq, Repr

def Association.edge (a : Association) : Edge := ⟨a.parent, a.child, a.type, a.name, a.isPrimary⟩

namespace Store

variable {s : Store}

/-- The edges of a parent, in the order of its associations. -/
def edges (s : Store) (parent : Uuid) : List Edge := (s.children parent none).map (·.edge)

theorem edges_congr {t : Store} {parent : Uuid}
    (h : t.children parent none = s.children parent none) : t.edges parent = s.edges parent := by
  rw [edges, edges, h]

theorem mem_children {a : Association} {parent : Uuid} :
    a ∈ s.children parent none ↔ a ∈ s.associations ∧ a.parent = parent := by
  simp [children]

theorem children_of_type (s : Store) (parent : Uuid) (type : Option String) :
    s.children parent type = (s.children parent none).filter fun a => type.all (a.type = ·) := by
  rw [children, children, List.filter_filter]
  refine List.filter_congr fun a _ => ?_
  cases decide (a.parent = parent) <;> simp

/-- What is asked of the associations of one parent is asked of its edges. -/
theorem any_edges (s : Store) (parent : Uuid) (p : Edge → Bool) :
    (s.edges parent).any p = s.associations.any fun a => a.parent = parent && p a.edge := by
  rw [edges, List.any_map, children, List.any_filter]
  congr 1
  funext a
  simp

theorem hasAssociation_eq (s : Store) (parent child : Uuid) (type : String) :
    s.hasAssociation parent child type =
      (s.edges parent).any fun e => e.child = child && e.type = type := by
  rw [any_edges, hasAssociation]
  congr 1
  funext a
  exact Bool.and_assoc ..

theorem hasChildName_eq (s : Store) (parent : Uuid) (type name : String) :
    s.hasChildName parent type name =
      (s.edges parent).any fun e => e.type = type && e.name = name := by
  rw [any_edges, hasChildName]
  congr 1
  funext a
  exact Bool.and_assoc ..

theorem children_append {t : Store} {new : List Association}
    (h : t.associations = s.associations ++ new) (parent : Uuid) :
    t.children parent none = s.children parent none ++ new.filter (·.parent = parent) := by
  rw [children, children, h, List.filter_append]
  congr 1
  exact List.filter_congr fun a _ => by simp

end Store

end Multifiling
