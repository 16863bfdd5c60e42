import EventLedger.Tables.Statement

/-!
# Bringing the schema up to date

Each migration is carried out once, in one transaction with its record.  A history that does not
agree with the known one is refused.

## Main definitions

* `MigrationError`, `MigrationError.message` — why the schema stays as it is.
* `migrate` — the migrations that are missing, as a call that sends statements.
-/

namespace EventLedger

/-- Why the schema is not brought up to date. -/
inductive MigrationError
  /-- A recorded migration was not run to its end. -/
  | unfinished (version : Int)
  /-- A recorded migration is not known. -/
  | unknown (version : Int)
  /-- A recorded migration was run with another script. -/
  | modified (version : Int)
  /-- A migration's script failed. -/
  | script (version : Int) (f : DatabaseFailure)
  /-- Another statement failed. -/
  | database (f : DatabaseFailure)
  deriving DecidableEq, Repr

/-- The wording of a failure. -/
def MigrationError.message : MigrationError → String
  | .unfinished v =>
    s!"migration {v} is partially applied; fix and remove row from `_sqlx_migrations` table"
  | .unknown v => s!"migration {v} was previously applied but is missing in the resolved migrations"
  | .modified v => s!"migration {v} was previously applied but has been modified"
  | .script v f => s!"while executing migration {v}: {f.message}"
  | .database f => s!"while executing migrations: {f.message}"

/-- A call that brings the schema up to date. -/
abbrev MigrationCall (α : Type) := Call statementInterface MigrationError α

namespace MigrationCall

/-- The answer to a statement. -/
def send (q : Statement) : MigrationCall q.Answer := Call.ask (I := statementInterface) q

/-- What a statement yields; its failure is the call's, as `fault` says. -/
def run (fault : DatabaseFailure → MigrationError) (q : Statement) : MigrationCall q.Result := do
  match ← send q with
  | .ok a => pure a
  | .error f => Call.fail (fault f)

/-- What a statement inside a transaction yields; if it fails, the transaction is given up. -/
def runInside (fault : DatabaseFailure → MigrationError) (q : Statement) :
    MigrationCall q.Result := do
  match ← send q with
  | .ok a => pure a
  | .error f =>
    let _ ← send .abandon
    Call.fail (fault f)

end MigrationCall

/-- The least version among records that satisfy a condition. -/
def leastVersion? (p : MigrationRecord → Bool) (records : List MigrationRecord) : Option Int :=
  ((records.filter p).map (·.version)).min?

/-- What is wrong with a recorded history as a whole. -/
def historyFault? (records : List MigrationRecord) : Option MigrationError :=
  match leastVersion? (fun r => !r.success) records with
  | some v => some (.unfinished v)
  | none =>
    let isUnknown (r : MigrationRecord) : Bool := !(migrations.any fun m => m.version == r.version)
    (leastVersion? isUnknown records).map .unknown

/-- Carries out a migration and notes it, in one transaction. -/
def applyMigration (m : Migration) : MigrationCall Unit := do
  MigrationCall.run .database .begin
  MigrationCall.runInside (.script m.version) (.runMigration m)
  MigrationCall.runInside .database (.recordMigration m)
  MigrationCall.runInside .database .commit

/-- Carries out the migrations that are not recorded, in their order; one that was run with another
script ends the run. -/
def applyMissing (records : List MigrationRecord) : List Migration → MigrationCall Unit
  | [] => pure ()
  | m :: rest => do
    match (records.filter fun r => r.version == m.version).getLast? with
    | some r =>
      if !r.intact then Call.fail (.modified m.version)
    | none => applyMigration m
    applyMissing records rest

/-- Brings the schema up to date.  The name of the database, from which the key of the lock on
migrations is made, is asked for when the lock is taken and again when it is given back. -/
def migrate : MigrationCall Unit := do
  MigrationCall.run .database .databaseName
  let records ← MigrationCall.run .database .appliedMigrations
  match historyFault? records with
  | some e => Call.fail e
  | none =>
    applyMissing records migrations
    MigrationCall.run .database .databaseName

end EventLedger
