import EventLedger.Admin.Program

/-!
# The maintenance program's entry

Runs the maintenance program on the arguments and the environment of the process, against a server
inside the process that starts without tables.
-/

open EventLedger in
/-- Runs the maintenance program. -/
def main (args : List String) : IO UInt32 := do
  let env : AdminEnvironment :=
    { databaseUrl := ← IO.getEnv "DATABASE_URL"
      maxConnections := ← IO.getEnv "CHRONICLE_MAX_CONNECTIONS" }
  let client : Simulation.TableClient := ⟨{ server := { tables := [] } }, {}, 0, []⟩
  let (outcome, _) := AdminProgram.run env (fun _ => .ok ()) args client
  for line in outcome.printed.getD [] do
    IO.print line
  if let some e := outcome.failed then
    IO.eprintln e.message
  pure (UInt32.ofNat outcome.exit)
