import Multifiling.Store.Operation

/-!
Sessions: units of work on the store. The session shows its own changes at once; they become
permanent when they are committed and vanish when they are rolled back. A failure undoes nothing,
unless the database itself undoes the work since the last commit. Insert counts are never undone.
-/

namespace Multifiling

/-- The rows last committed, and the rows as the session sees them. -/
structure Session where
  committed : Store := {}
  current : Store := {}
  deriving Repr

/-- What came of an operation. -/
structure Outcome (α : Type) where
  result : Except Failure α
  /-- Whether the database undid the work since the last commit. -/
  undone : Bool
  session : Session

namespace Session

def commit (session : Session) : Session := { session with committed := session.current }

/-- Undoes the work since the last commit. -/
def rollback (session : Session) : Session :=
  { session with current := session.current.restore session.committed }

def run {α : Type} (session : Session) (operation : Operation α) : Outcome α :=
  match operation.run session.current with
  | .ok a s => ⟨.ok a, false, { session with current := s }⟩
  | .error e s =>
    let session := { session with current := s }
    if e.undoesWork then ⟨.error e, true, session.rollback⟩ else ⟨.error e, false, session⟩

/-- Commits the work, then changes the committed rows outside the session. -/
def apply (session : Session) (change : Store → Store) : Session :=
  let store := change session.commit.committed
  ⟨store, store⟩

end Session

/-- Runs an operation as a unit of work of its own: its changes stay if it succeeds and are undone
if it fails. -/
def Operation.transact {α : Type} (operation : Operation α) (s : Store) :
    Except Failure α × Store :=
  match operation.run s with
  | .ok a s' => (.ok a, s')
  | .error e s' => (.error e, s'.restore s)

end Multifiling
