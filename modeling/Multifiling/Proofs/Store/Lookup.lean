import Multifiling.Proofs.Store.Change

/-!
What looking up a node tells: the node is there, and the tables are. Whatever filing does, the same
texts name the same nodes afterwards (`SameTree.resolve`, `SameTree.lookup`).
-/

namespace Multifiling.Store

variable {s t : Store} {n : Node}

theorem readId_eq_ok {text : String} {id : Uuid} :
    readId (some text) = .ok id ↔ Uuid.parse? text = some id := by
  rw [readId, Option.bind_some]
  cases Uuid.parse? text with
  | none => simp
  | some other => rw [Except.ok.injEq, Option.some.injEq]

theorem readId_error {given : Option String} {e : Failure} (h : readId given = .error e) :
    e = .nodeNotFound given := by
  rw [readId] at h
  split at h
  · cases h
    rfl
  · cases h

theorem resolve_eq (s : Store) (given : Option String) :
    s.resolve given = match given.bind Uuid.parse? with
      | none => .error (.nodeNotFound given)
      | some id =>
        if s.hasTables then
          match s.node? id with
          | none => .error (.nodeNotFound given)
          | some n => .ok n
        else .error (.noTables false) := by
  simp only [resolve, readId, queried]
  cases given.bind Uuid.parse? with
  | none => rfl
  | some id =>
    cases s.hasTables with
    | false => rfl
    | true => cases s.node? id <;> rfl

theorem resolve_ok {given : Option String} (h : s.resolve given = .ok n) :
    n ∈ s.nodes ∧ s.hasTables = true := by
  rw [resolve_eq] at h
  split at h
  · cases h
  · split at h
    · next htables =>
      split at h
      · cases h
      · next hn => cases h; exact ⟨(node?_eq_some hn).1, htables⟩
    · cases h

/-- A text names a node: it is a spelling of the node's identifier. -/
structure Names (s : Store) (text : String) (n : Node) : Prop where
  tables : s.hasTables = true
  spelled : Uuid.parse? text = some n.id
  found : s.node? n.id = some n

theorem resolve_ok_iff {text : String} : s.resolve (some text) = .ok n ↔ s.Names text n := by
  rw [resolve_eq, Option.bind_some]
  constructor
  · intro h
    split at h
    · cases h
    · next id hparse =>
      split at h
      · next htables =>
        split at h
        · cases h
        · next hn =>
          cases h
          obtain rfl : n.id = id := (node?_eq_some hn).2
          exact ⟨htables, hparse, hn⟩
      · cases h
  · rintro ⟨htables, hspelled, hfound⟩
    simp only [hspelled, htables, if_true, hfound]

/-- The alias of the root is no identifier. -/
theorem parse?_rootAlias : Uuid.parse? rootAlias = none := by decide

theorem not_names_rootAlias : ¬s.Names rootAlias n := by
  intro h
  have hspelled := h.spelled
  rw [parse?_rootAlias] at hspelled
  cases hspelled

theorem resolve_error_cases {given : Option String} {e : Failure}
    (h : s.resolve given = .error e) : e = .nodeNotFound given ∨ e = .noTables false := by
  rw [resolve_eq] at h
  split at h
  · cases h; exact .inl rfl
  · split at h
    · split at h
      · cases h; exact .inl rfl
      · cases h
    · cases h; exact .inr rfl

/-- A text that names no node undoes no work. -/
theorem resolve_error {given : Option String} {e : Failure} (h : s.resolve given = .error e) :
    e.undoesWork = false := by
  rcases resolve_error_cases h with rfl | rfl <;> rfl

theorem ancestorsFrom_eq (s : Store) (current : Uuid) (seen : List Uuid) :
    s.ancestorsFrom current seen = match s.primaryParent current with
      | .error e => .error e
      | .ok none => .ok []
      | .ok (some a) =>
        if a.parent ∈ seen then .ok []
        else
          match s.node? a.parent with
          | none => .ok []
          | some p => (s.ancestorsFrom p.id (p.id :: seen)).map (p :: ·) := by
  rw [ancestorsFrom]
  cases s.primaryParent current with
  | error e => rfl
  | ok primary =>
    cases primary with
    | none => rfl
    | some a =>
      by_cases hs : a.parent ∈ seen
      · simp only [hs, dite_true, if_true]
      · simp only [hs, dite_false, if_false]
        split <;> next hn => simp only [hn]

namespace SameTree

variable (h : SameTree s t)
include h

theorem node? (id : Uuid) : t.node? id = s.node? id := by
  simp only [Store.node?, h.nodes]

theorem user? (id : Uuid) : t.user? id = s.user? id := by
  simp only [Store.user?, h.users]

theorem resolve (given : Option String) : t.resolve given = s.resolve given := by
  simp only [Store.resolve, queried, h.hasTables, h.node?]

theorem lookup (given : Option String) : t.lookup given = s.lookup given := by
  simp only [Store.lookup, queried, root?, h.hasTables, h.nodes, h.resolve]

/-- The primary associations of a child are among the primary ones of the store. -/
theorem primaryParent (child : Uuid) : t.primaryParent child = s.primaryParent child := by
  have hfilter (u : Store) : (u.associations.filter fun a => a.child = child && a.isPrimary) =
      (u.associations.filter (·.isPrimary)).filter fun a => a.child = child := by
    rw [List.filter_filter]
  rw [Store.primaryParent, Store.primaryParent, hfilter t, hfilter s, h.primaries]

theorem ancestorsFrom (current : Uuid) (seen : List Uuid) :
    t.ancestorsFrom current seen = s.ancestorsFrom current seen := by
  fun_induction s.ancestorsFrom current seen with
  | case1 current seen e hp | case2 current seen hp =>
    rw [ancestorsFrom_eq, h.primaryParent, hp]
  | case3 current seen a hp hs => rw [ancestorsFrom_eq, h.primaryParent, hp]; exact if_pos hs
  | case4 current seen a hp hs hn =>
    rw [ancestorsFrom_eq, h.primaryParent, hp]
    simp only [if_neg hs, h.node?, hn]
  | case5 current seen a hp hs p hn ih =>
    rw [ancestorsFrom_eq, h.primaryParent, hp]
    simp only [if_neg hs, h.node?, hn, ih]

theorem primaryPath (n : Node) : t.primaryPath n = s.primaryPath n := by
  simp only [Store.primaryPath, h.ancestorsFrom]

end SameTree

end Multifiling.Store
