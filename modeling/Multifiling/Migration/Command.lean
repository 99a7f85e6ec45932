import Multifiling.Migration.Catalog
import Multifiling.Migration.Target

/-!
Migration commands on a database. Those that act on where the database stands see to the version
table first; the others only tell.
-/

namespace Multifiling.Migration

inductive Command where
  | act (action : Action) (revision : String)
  | current
  | history
  | heads
  deriving DecidableEq, Repr

/-- Why a command fails. -/
inductive CommandError where
  /-- A range of revisions, which only a script can be made for. -/
  | range
  | target (error : TargetError)
  /-- The database refused a statement. -/
  | refused
  deriving DecidableEq, Repr

/-- Whether an action takes no range of revisions; a stamp would look for one of that name. -/
def Action.refusesRange : Action → Bool
  | .upgrade | .downgrade => true
  | .stamp => false

/-- Does an action on a database. -/
def Action.run (action : Action) (text : String) (c : Catalog) :
    Except CommandError Unit × Catalog :=
  if action.refusesRange && text.toList.contains ':' then (.error .range, c)
  else
    let c := c.withVersionTable
    match plan action c.stage text with
    | .error e => (.error (.target e), c)
    | .ok none => (.ok (), c)
    | .ok (some step) =>
      match c.executeAll step.statements with
      | (true, c) => (.ok (), c)
      | (false, c) => (.error .refused, c)

namespace Command

/-- The head as it is listed. -/
def headLine : String := revision ++ " (head)"

/-- Runs a command; gives the lines that it prints and the database after it. -/
def run (command : Command) (c : Catalog) : Except CommandError (List String) × Catalog :=
  match command with
  | .act action text =>
    let (result, c) := action.run text c
    (result.map fun _ => [], c)
  | .current => (.ok (if c.stage = .head then [headLine] else []), c)
  | .history => (.ok ["<base> -> " ++ headLine ++ ", " ++ title], c)
  | .heads => (.ok [headLine], c)

end Command

end Multifiling.Migration
