import Multifiling.Seed.CommandLine

/-!
The command line of the sample content, on a repository that lasts as long as the process.
-/

namespace Multifiling

/-- The name under which the command line speaks of itself. -/
def programName : String := "seed_data.py"

end Multifiling

/-- Runs a command line; one that cannot be read is answered with how the program is called. -/
def main (words : List String) : IO UInt32 := do
  match (Multifiling.Seed.run Multifiling.programName words {}).1 with
  | .error failure =>
    IO.eprintln (failure.message?.getD "The database refused the work.")
    return 1
  | .ok report =>
    report.lines.forM IO.println
    if report.exit ≠ 0 then
      IO.eprintln (Multifiling.Seed.CommandLine.usage Multifiling.programName)
    return report.exit.toUInt32
