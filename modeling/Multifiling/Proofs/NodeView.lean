import Multifiling.NodeView
import Multifiling.Proofs.Entries
import Multifiling.Proofs.Store.Forest
import Multifiling.Proofs.Traverse

/-!
Views of nodes without memory. The users that were shown before are only remembered: a view built
with them is the one that is built from the store alone (`build_eq`). Stores with the same tree give
the same views. Asking for more parts changes nothing else in a view (`plain_short`).
-/

namespace Multifiling

namespace NodeView
open Store

variable {s t : Store} {users : Users}

/-- Users are remembered as they are in the store. -/
def Faithful (s : Store) (users : Users) : Prop :=
  ∀ id view, users.get? id = some view → (s.user? id).map (⟨id, ·.displayName⟩) = some view

theorem Faithful.nil (s : Store) : Faithful s [] := nofun

theorem Faithful.put {id : Uuid} {u : User} (h : Faithful s users) (hu : s.user? id = some u) :
    Faithful s (users.put id ⟨id, u.displayName⟩) := by
  intro k view hk
  rw [Entries.get?_put] at hk
  split at hk
  · next heq =>
    subst heq
    cases hk
    rw [hu]
    rfl
  · exact h k view hk

def plainUser (s : Store) (reference : Option Uuid) : Option UserView :=
  reference.bind fun id => (s.user? id).map fun u => ⟨id, u.displayName⟩

theorem user_eq (h : Faithful s users) (reference : Option Uuid) :
    ∃ users', user s users reference = (plainUser s reference, users') ∧ Faithful s users' := by
  cases reference with
  | none => exact ⟨users, rfl, h⟩
  | some id =>
    rw [user, plainUser, Option.bind_some]
    cases hget : users.get? id with
    | some view => exact ⟨users, by rw [h id view hget], h⟩
    | none =>
      cases hu : s.user? id with
      | none => exact ⟨users, rfl, h⟩
      | some u => exact ⟨_, rfl, h.put hu⟩

/-- The view of a node, from the store alone. -/
def plain (s : Store) (registry : Registry) (includes : List Include) (n : Node) :
    Except Failure NodeView := do
  let primary ← s.primaryParent n.id
  let path ←
    if includes.contains .path then (s.primaryPath n).map (some ∘ pathOf) else pure none
  return {
    id := n.id
    name := n.name
    nodeType := registry.display n.type
    isFolder := n.type = ContentModel.folder.fullForm
    isFile := n.type = ContentModel.content.fullForm
    parent := primary.map (·.parent)
    createdBy := plainUser s n.createdBy
    modifiedBy := plainUser s n.modifiedBy
    path
    properties := if includes.contains .properties then some n.properties else none }

/-- What is remembered does not change the view. -/
theorem build_eq (registry : Registry) (includes : List Include) (h : Faithful s users) (n : Node) :
    ∃ users', build s registry includes users n =
      (plain s registry includes n).map (·, users') ∧ Faithful s users' := by
  obtain ⟨users₁, h₁, hf₁⟩ := user_eq h n.createdBy
  obtain ⟨users₂, h₂, hf₂⟩ := user_eq hf₁ n.modifiedBy
  refine ⟨users₂, ?_, hf₂⟩
  rw [build, plain]
  cases s.primaryParent n.id with
  | error e => rfl
  | ok primary =>
    simp only [bind, Except.bind, h₁, h₂]
    by_cases hpath : includes.contains .path
    · simp only [hpath, if_true]
      cases s.primaryPath n <;> rfl
    · simp only [hpath]
      rfl

/-- The path of a view, if it was asked for, is that of the ancestors. -/
theorem build_path (registry : Registry) {includes : List Include} (hi : includes.contains .path)
    (users : Users) {n : Node} {primary : Option Association} {ancestors : List Node}
    (hprimary : s.primaryParent n.id = .ok primary) (h : s.primaryPath n = .ok ancestors) :
    ∃ view users', build s registry includes users n = .ok (view, users') ∧
      view.path = some (pathOf ancestors) := by
  simp only [build, hprimary, h, hi]
  exact ⟨_, _, rfl, rfl⟩

/-! ### Stores -/

/-- Filing changes no view. -/
theorem plain_sameTree (h : SameTree s t) (registry : Registry) (includes : List Include)
    (n : Node) : plain t registry includes n = plain s registry includes n := by
  simp only [plain, plainUser, h.primaryParent, h.primaryPath, h.user?]

/-- Where a child has one primary parent at most, every node can be shown. -/
theorem plain_ok (hs : s.Constraints) (registry : Registry) (includes : List Include) (n : Node) :
    ∃ view, plain s registry includes n = .ok view := by
  obtain ⟨primary, hp⟩ := hs.primaryParent_ok n.id
  obtain ⟨path, hpath⟩ := hs.primaryPath_ok n
  rw [plain, hp, hpath]
  by_cases hi : includes.contains .path
  · simp only [hi, if_true]
    exact ⟨_, rfl⟩
  · simp only [hi]
    exact ⟨_, rfl⟩

/-! ### Parts -/

/-- A view without the parts that have to be asked for. -/
def short (view : NodeView) : NodeView := { view with properties := none, path := none }

/-- Whether a view holds a part. -/
def holds (view : NodeView) : Include → Bool
  | .path => view.path.isSome
  | .properties => view.properties.isSome

/-- Asking for parts changes nothing else in a view, where primary paths can be read. -/
theorem plain_short (hs : s.Constraints) (registry : Registry) (includes : List Include)
    (n : Node) : (plain s registry includes n).map short = plain s registry [] n := by
  obtain ⟨path, hpath⟩ := hs.primaryPath_ok n
  rw [plain, plain, hpath]
  cases s.primaryParent n.id with
  | error e => rfl
  | ok primary => cases includes.contains .path <;> rfl

theorem plain_holds {registry : Registry} {includes : List Include} {n : Node} {view : NodeView}
    (h : plain s registry includes n = .ok view) (part : Include) :
    view.holds part = includes.contains part := by
  obtain ⟨primary, -, h⟩ := bind_eq_ok.mp h
  have hproperties (properties : Entries String Json) :
      (if includes.contains .properties then some properties else none).isSome =
        includes.contains .properties := by cases includes.contains .properties <;> rfl
  cases hasked : includes.contains .path with
  | true =>
    simp only [hasked, if_true] at h
    obtain ⟨path, hpath, h⟩ := bind_eq_ok.mp h
    obtain ⟨ancestors, -, rfl⟩ := map_eq_ok.mp hpath
    cases h
    cases part with
    | path => exact hasked.symm
    | properties => exact hproperties n.properties
  | false =>
    simp only [hasked, Bool.false_eq_true, if_false] at h
    cases h
    cases part with
    | path => exact hasked.symm
    | properties => exact hproperties n.properties

end NodeView

end Multifiling
