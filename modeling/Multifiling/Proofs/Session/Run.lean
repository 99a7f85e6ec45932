import Multifiling.Proofs.Operation.Run
import Multifiling.Session

/-!
What a session does with one operation. The rows last committed stay as they are, and the rows that
it sees are those that the operation leaves, unless the database has undone the work.
-/

namespace Multifiling

variable {α : Type}

namespace Session

theorem run_committed (session : Session) (operation : Operation α) :
    (session.run operation).session.committed = session.committed := by
  rw [run]
  cases operation.run session.current with
  | ok a t => rfl
  | error e t => cases h : e.undoesWork <;> simp only [h] <;> rfl

theorem run_ok {session : Session} {operation : Operation α}
    (h : (session.run operation).result.isOk) :
    ∃ a, operation.run session.current = .ok a (session.run operation).session.current := by
  rw [run] at h ⊢
  cases hr : operation.run session.current with
  | ok a t => exact ⟨a, rfl⟩
  | error e t =>
    rw [hr] at h
    cases he : e.undoesWork <;> simp [he, Except.isOk, Except.toBool] at h

theorem run_of_ok {session : Session} {operation : Operation α} {a : α} {t : Store}
    (h : operation.run session.current = .ok a t) :
    session.run operation = ⟨.ok a, false, { session with current := t }⟩ := by
  simp [run, h]

theorem run_undone {session : Session} {operation : Operation α} {e : Failure} {t : Store}
    (h : operation.run session.current = .error e t) (he : e.undoesWork = true) :
    session.run operation =
      ⟨.error e, true, ({ session with current := t } : Session).rollback⟩ := by
  simp [run, h, he]

/-- A failure that undoes nothing leaves what the operation has done in the session. -/
theorem run_error {session : Session} {operation : Operation α} {e : Failure} {t : Store}
    (h : operation.run session.current = .error e t) (he : e.undoesWork = false) :
    session.run operation = ⟨.error e, false, { session with current := t }⟩ := by
  simp [run, h, he]

theorem result_of_error {session : Session} {operation : Operation α} {e : Failure} {t : Store}
    (h : operation.run session.current = .error e t) :
    (session.run operation).result = .error e := by
  cases he : e.undoesWork with
  | false => rw [run_error h he]
  | true => rw [run_undone h he]

theorem isOk_run (session : Session) (operation : Operation α) :
    (session.run operation).result.isOk = operation.succeeds session.current := by
  rw [Operation.succeeds]
  cases hr : operation.run session.current with
  | ok a t => rw [run_of_ok hr]; rfl
  | error e t => rw [result_of_error hr]; rfl

theorem conflict_run (session : Session) (operation : Operation α) :
    (∃ conflict, (session.run operation).result = .error (.conflict conflict)) ↔
      operation.conflicts session.current = true := by
  rw [Operation.conflicts]
  cases hr : operation.run session.current with
  | ok a t => simp [run_of_ok hr]
  | error e t =>
    rw [result_of_error hr]
    cases e <;> simp [Failure.isConflict]

/-- What a result says of the operation, and of the session afterwards. -/
theorem of_result_ok {session : Session} {operation : Operation α} {a : α}
    (h : (session.run operation).result = .ok a) :
    ∃ t, operation.run session.current = .ok a t ∧
      (session.run operation).session = { session with current := t } := by
  cases hr : operation.run session.current with
  | ok b t =>
    rw [run_of_ok hr] at h ⊢
    cases h
    exact ⟨t, rfl, rfl⟩
  | error e t =>
    rw [result_of_error hr] at h
    cases h

theorem of_result_error {session : Session} {operation : Operation α} {e : Failure}
    (h : (session.run operation).result = .error e) :
    ∃ t, operation.run session.current = .error e t ∧
      session.run operation = if e.undoesWork then
        ⟨.error e, true, ({ session with current := t } : Session).rollback⟩
        else ⟨.error e, false, { session with current := t }⟩ := by
  cases hr : operation.run session.current with
  | ok b t =>
    rw [run_of_ok hr] at h
    cases h
  | error e' t =>
    rw [result_of_error hr] at h
    cases h
    refine ⟨t, rfl, ?_⟩
    cases he : e.undoesWork with
    | false => exact run_error hr he
    | true => exact run_undone hr he

/-- The rows that the session sees are those that the operation leaves, unless it was undone. -/
theorem run_current_eq (session : Session) (operation : Operation α) :
    (session.run operation).session.current =
      if (session.run operation).undone then
        (operation.after session.current).restore session.committed
      else operation.after session.current := by
  rw [run, Operation.after]
  cases operation.run session.current with
  | ok a t => rfl
  | error e t => cases he : e.undoesWork <;> simp only [he] <;> rfl

theorem run_current (session : Session) (operation : Operation α) :
    (session.run operation).session.current = operation.after session.current ∨
    (session.run operation).session.current =
      (operation.after session.current).restore session.committed := by
  rw [run_current_eq]
  split
  · exact .inr rfl
  · exact .inl rfl

theorem commit_current (session : Session) : session.commit.current = session.current := rfl

theorem rollback_current (session : Session) :
    session.rollback.current = session.current.restore session.committed := rfl

end Session

/-- A unit of work of its own is a session that is committed or rolled back. -/
theorem Operation.transact_eq (operation : Operation α) (s : Store) :
    let outcome := (⟨s, s⟩ : Session).run operation
    operation.transact s =
      (outcome.result, (if outcome.result.isOk then outcome.session.commit
        else outcome.session.rollback).current) := by
  rw [transact, Session.run]
  cases operation.run s with
  | ok a t => rfl
  | error e t => cases h : e.undoesWork <;> simp [h, Except.isOk, Except.toBool] <;> rfl

end Multifiling
