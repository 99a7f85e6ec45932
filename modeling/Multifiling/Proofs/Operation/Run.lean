import Multifiling.Store.Operation

/-!
How operations run: one equation for the outcome of each primitive, and the two parts of a sequence
that succeeds (`bind_ok`). `after` is the store that an operation leaves, whether it succeeds or
fails.
-/

namespace Multifiling

def Failure.isConflict : Failure → Bool
  | .conflict _ => true
  | _ => false

/-- Whether the database has refused an association, whatever is told of that. -/
def Failure.losesWork : Failure → Bool
  | .workLost => true
  | _ => false

namespace Operation

variable {α β : Type} {s t : Store}

@[simp] theorem run_fail (e : Failure) (s : Store) :
    (throw e : Operation α).run s = .error e s := rfl

@[simp] theorem run_read (f : Store → Except Failure α) (s : Store) :
    (read f).run s = match f s with
      | .ok a => .ok a s
      | .error e => .error e s := rfl

@[simp] theorem run_require (e : Failure) (condition : Store → Bool) (s : Store) :
    (require e condition).run s = if condition s then .ok () s else .error e s := rfl

@[simp] theorem run_writable (s : Store) :
    writable.run s = if s.hasTables then .ok () s else .error (.noTables true) s := rfl

/-- What follows a reading that succeeds runs on the same rows. -/
theorem run_read_bind (f : Store → Except Failure α) (g : α → Operation β) (s : Store) :
    (read f >>= g).run s = match f s with
      | .ok a => (g a).run s
      | .error e => .error e s := by
  rw [EStateM.run_bind, run_read]
  cases f s <;> rfl

/-- A sequence succeeds if its first part does, and then the second. -/
theorem bind_ok {x : Operation α} {f : α → Operation β} {b : β}
    (h : (x >>= f).run s = .ok b t) : ∃ a m, x.run s = .ok a m ∧ (f a).run m = .ok b t := by
  rw [EStateM.run_bind] at h
  split at h
  · next a m hx => exact ⟨a, m, hx, h⟩
  · cases h

theorem read_bind_ok {f : Store → Except Failure α} {g : α → Operation β} {b : β}
    (h : (read f >>= g).run s = .ok b t) : ∃ a, f s = .ok a ∧ (g a).run s = .ok b t := by
  rw [run_read_bind] at h
  split at h
  · next a hf => exact ⟨a, hf, h⟩
  · cases h

theorem run_get_bind (f : Store → Operation β) (s : Store) :
    (get >>= f).run s = (f s).run s := rfl

/-- A handler runs on the rows that the failure has left. -/
theorem run_tryCatch (x : Operation α) (handle : Failure → Operation α) (s : Store) :
    (tryCatch x handle).run s = match x.run s with
      | .ok a t => .ok a t
      | .error e t => (handle e).run t := by
  change EStateM.tryCatch x handle s = _
  delta EStateM.tryCatch
  simp only [EStateM.run]
  cases x s with
  | ok a t => rfl
  | error e t => rfl

/-- The store that an operation leaves, whether it succeeds or fails. -/
def after (x : Operation α) (s : Store) : Store :=
  match x.run s with
  | .ok _ t => t
  | .error _ t => t

theorem after_of_ok {x : Operation α} {a : α} (h : x.run s = .ok a t) : x.after s = t := by
  simp [after, h]

theorem after_of_error {x : Operation α} {e : Failure} (h : x.run s = .error e t) :
    x.after s = t := by
  simp [after, h]

/-- Whether an operation succeeds. -/
def succeeds (x : Operation α) (s : Store) : Bool :=
  match x.run s with
  | .ok _ _ => true
  | .error _ _ => false

/-- Whether an operation ends in a conflict that the store found. -/
def conflicts (x : Operation α) (s : Store) : Bool :=
  match x.run s with
  | .ok _ _ => false
  | .error e _ => e.isConflict

theorem run_of_succeeds {x : Operation α} (h : x.succeeds s = true) :
    ∃ a, x.run s = .ok a (x.after s) := by
  rw [succeeds] at h
  cases hx : x.run s with
  | ok a t => exact ⟨a, by rw [after_of_ok hx]⟩
  | error e t =>
    rw [hx] at h
    cases h

theorem after_bind (x : Operation α) (f : α → Operation β) (s : Store) :
    (x >>= f).after s = match x.run s with
      | .ok a t => (f a).after t
      | .error _ t => t := by
  simp only [after, EStateM.run_bind]
  cases x.run s <;> rfl

end Operation

end Multifiling
