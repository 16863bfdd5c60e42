import EventLedger.Admin.CommandLine
import EventLedger.Admin.Output
import EventLedger.Simulation.TableClient
import EventLedger.Tables.Address

/-!
# The maintenance program

A command line carried out against a database server, from its arguments to what is printed and the
code that it ends with.

## Main definitions

* `AdminProgram.run` — the program.
-/

namespace EventLedger

open Simulation (TableClient)

namespace AdminProgram

/-- What the program leaves behind. -/
structure Outcome where
  /-- The code that it ends with: 0 if it did its work, 1 if that failed, 2 if it was called
  wrongly. -/
  exit : Nat
  /-- Why the work failed. -/
  failed : Option AdminError := none
  /-- The lines that were printed; none if help was asked for, whose lines are not kept. -/
  printed : Option (List String) := some []

/-- What `--version` prints. -/
def versionLine : String := "chronicle-admin 0.1.0\n"

/-- The outcome of a command line that leads to no command. -/
def usage (e : UsageError) : Outcome :=
  { exit := if e.isNotice then 0 else 2
    printed :=
      match e with
      | .displayHelp => none
      | .displayVersion => some [versionLine]
      | _ => some [] }

/-- The outcome of a command and its output. -/
def conclude {α : Type} (r : Except AdminError α) (o : Output) : Outcome :=
  match r with
  | .ok _ => { exit := 0, printed := some o.lines.reverse }
  | .error e => { exit := 1, failed := some e, printed := some o.lines.reverse }

/-- Carries a task out. -/
def perform (task : AdminTask) (c : TableClient) : Outcome × TableClient :=
  match task with
  | .migrate =>
    let r := c.migrate
    (conclude (r.1.mapError .migration) {}, r.2)
  | .tail start pageSize limit =>
    let r := AdminCall.runOver (TableClient.serve .standard) false (tail start pageSize limit) c {}
    (conclude r.1 r.2.2, r.2.1)
  | .purge name id =>
    let r := AdminCall.runOver (TableClient.serve .standard) false (purge name id) c {}
    (conclude r.1 r.2.2, r.2.1)

/-- The failure to reach a database with the settings of an invocation; `reach` tells whether a
server answers at an address. -/
def connectFault? (reach : String → Except DatabaseFailure Unit) (i : Invocation) :
    Option DatabaseFailure :=
  match checkAddress i.databaseUrl with
  | .error f => some f
  | .ok () =>
    if i.maxConnections = 0 then some .poolTimedOut
    else
      match reach i.databaseUrl with
      | .error f => some f
      | .ok () => none

/-- Whether an argument reads like a wish for help, wherever it stands. -/
def readsLikeHelp (arg : String) : Bool := arg == "--help" || arg == "-h" || arg == "help"

/-- Carries a command line out. -/
def carryOut (env : AdminEnvironment) (reach : String → Except DatabaseFailure Unit)
    (args : List String) (c : TableClient) : Outcome × TableClient :=
  match Invocation.parse env args with
  | .error e => (usage e, c)
  | .ok i =>
    match connectFault? reach i with
    | some f => ({ exit := 1, failed := some (.database f) }, c)
    | none => perform i.task c

/-- Runs the program.  What it prints is kept unless an argument reads like a wish for help. -/
def run (env : AdminEnvironment) (reach : String → Except DatabaseFailure Unit) (args : List String)
    (c : TableClient) : Outcome × TableClient :=
  let r := carryOut env reach args c
  ({ r.1 with printed := if args.any readsLikeHelp then none else r.1.printed }, r.2)

end AdminProgram

end EventLedger
