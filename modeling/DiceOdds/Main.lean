import DiceOdds.CommandLine.Help
import DiceOdds.CommandLine.Report

/-!
# The Program

Gathers what a run of the command line depends on, carries it out, and prints the report.
The log goes to the standard error stream.
-/

namespace DiceOdds.CommandLine

/-- The variables of the environment that give settings. -/
def settingVariables : IO (List (String × String)) := do
  let names := Settings.Field.all.flatMap fun f => [f.name, f.name.toUpper]
  names.filterMapM fun name => do
    return (← IO.getEnv name).map fun value => (name, value)

/-- The file of variables in the working directory, if there is one. -/
def variablesFile : IO (Option String) := do
  try
    return some (← IO.FS.readFile ".env")
  catch _ =>
    return none

/-- A seed that nobody can foresee. -/
def freshSeed : IO Nat := do
  let bytes ← IO.getRandomBytes 16
  return bytes.foldl (fun n b => 256 * n + b.toNat) 0

/-- Prints a report. -/
def printReport : Report → IO Unit
  | .help => IO.println helpText
  | .misuse complaint => do
    IO.eprintln usage
    IO.eprintln s!"roller: error: {complaint}"
  | .finished _ log => log.forM fun e => IO.eprintln e.text

/-- Prints what is wrong with the settings. -/
def printFault : Fault → IO Unit
  | .badSettings complaints => do
    IO.eprintln (Fault.badSettings complaints).message
    complaints.forM fun c => IO.eprintln s!"{c.field.name}: {c.cause.message}"
  | f => IO.eprintln f.message

end DiceOdds.CommandLine

open DiceOdds CommandLine

/-- Runs the command line. -/
def main (arguments : List String) : IO UInt32 := do
  let environment : Settings.Environment :=
    { assigned := ← settingVariables, file := ← variablesFile }
  let session : Session Random.Permuted :=
    { cache := { environment }, entropy := ← freshSeed }
  match ((run arguments).runIn session).1 with
  | .ok report =>
    printReport report
    return report.exitCode.toUInt32
  | .error fault =>
    printFault fault
    return 1
