import Accounts.Json.Printer
import Accounts.Launch

/-!
# The command line

Reads the settings from the environment and prints what the server is launched with, or what is
wrong with the settings.
-/

open Accounts

/-- The environment variables that settings are read from. -/
def readEnvironment : IO (List (String × String)) := do
  let names := Settings.names.map String.toUpper
  let found ← (names ++ Settings.names).mapM fun name => do
    return (← IO.getEnv name).map fun value => (name, value)
  return found.filterMap id

def complaintLine (complaint : Payload.FieldComplaint) : String :=
  s!"{complaint.field}: {complaint.complaint.text}"

def main : IO UInt32 := do
  match Settings.ofEnvironment (← readEnvironment) with
  | .ok settings =>
    IO.println (String.ofList (Launch.ofSettings settings).toJson.print)
    return 0
  | .bad complaints =>
    for complaint in complaints do
      IO.eprintln (complaintLine complaint)
    return 1
