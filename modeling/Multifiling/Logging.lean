import Multifiling.Text.UpperCase

/-!
Log levels of the process: the root level is the configured one, the database engine only reports
warnings.
-/

namespace Multifiling.Logging

def levels : List (String × Nat) :=
  [("CRITICAL", 50), ("FATAL", 50), ("ERROR", 40), ("WARNING", 30), ("WARN", 30), ("INFO", 20),
   ("DEBUG", 10), ("NOTSET", 0)]

/-- The level of a name that is none. -/
def defaultLevel : Nat := 20

/-- The level of the database engine's messages. -/
def engineLevel : Nat := 30

/-- Why a name cannot be used, though it means something to the logging system. -/
inductive LevelError where
  /-- The name of a message format. -/
  | formatText
  /-- The name of the table of format styles. -/
  | styleTable
  deriving DecidableEq, Repr

/-- The root level for a name, without regard to case; unknown names give the default. -/
def rootLevel (name : String) : Except LevelError Nat :=
  let name := Text.upper name
  match levels.lookup name with
  | some level => .ok level
  | none =>
    if name = "BASIC_FORMAT" then .error .formatText
    else if name = "_STYLES" then .error .styleTable
    else .ok defaultLevel

end Multifiling.Logging
