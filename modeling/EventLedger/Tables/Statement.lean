import EventLedger.Call
import EventLedger.Tables.Row

/-!
# Statements

What a database server is asked, and what it answers.

## Main definitions

* `LedgerTable`, `Migration`, `migrations` — the tables and the scripts that create them.
* `Statement`, `Statement.Result`, `statementInterface` — what is asked and what is answered.
-/

namespace EventLedger

/-- The tables of the ledger. -/
inductive LedgerTable
  | events
  | snapshots
  deriving DecidableEq, Repr

/-- The name of a table. -/
def LedgerTable.name : LedgerTable → String
  | .events => "chronicle_events"
  | .snapshots => "chronicle_snapshots"

/-- The key of the lock that a commit holds until its end, so that global numbers become visible in
the order in which they are drawn. -/
def commitLockKey : Int := 109300247653993

/-- A step of the schema's history. -/
structure Migration where
  /-- The version that it leads to. -/
  version : Int
  /-- What it does, in words. -/
  description : String
  /-- The table that its script creates. -/
  creates : LedgerTable
  deriving DecidableEq, Repr

/-- The schema's history, oldest first. -/
def migrations : List Migration :=
  [⟨1, "create chronicle events", .events⟩, ⟨2, "create chronicle snapshots", .snapshots⟩]

/-- The note that a migration was carried out. -/
structure MigrationRecord where
  /-- The version. -/
  version : Int
  /-- What the migration did, in words. -/
  description : String
  /-- Whether the script that was run is the one known under the version. -/
  intact : Bool
  /-- Whether the script was run to its end. -/
  success : Bool
  deriving DecidableEq, Repr

/-- The record of a migration that was carried out. -/
def Migration.record (m : Migration) : MigrationRecord := ⟨m.version, m.description, true, true⟩

/-- What a server is asked on one connection. -/
inductive Statement
  /-- Open a transaction. -/
  | begin
  /-- Take the commit lock until the end of the transaction. -/
  | lock
  /-- Insert rows; the answer holds their global numbers. -/
  | insertEvents (rows : List EventDraft)
  /-- Close the transaction and make its rows visible. -/
  | commit
  /-- Close the transaction and forget its rows. -/
  | rollback
  /-- Give the transaction up after a failure. -/
  | abandon
  /-- The rows of a stream between two sequence numbers, by sequence number. -/
  | selectRange (key : StreamKey) (first last : Int)
  /-- The rows of a stream from a sequence number on, by sequence number. -/
  | selectStream (key : StreamKey) (start : Int)
  /-- At most `limit` rows from a global number on, by global number. -/
  | selectGlobal (start limit : Int)
  /-- Delete a stream; the answer counts its rows. -/
  | deleteEvents (key : StreamKey)
  /-- Insert a snapshot, or replace an older one of the aggregate. -/
  | upsertSnapshot (row : SnapshotRow)
  /-- The snapshot of an aggregate. -/
  | selectSnapshot (key : StreamKey)
  /-- Delete the snapshots of an aggregate. -/
  | deleteSnapshots (key : StreamKey)
  /-- The name of the database, asked first when the schema is brought up to date. -/
  | databaseName
  /-- The migrations that were carried out. -/
  | appliedMigrations
  /-- Run a migration's script. -/
  | runMigration (m : Migration)
  /-- Note that a migration was carried out. -/
  | recordMigration (m : Migration)

namespace Statement

/-- What a statement yields if it succeeds. -/
def Result : Statement → Type
  | insertEvents _ => List Int
  | selectRange .. => List EventRow
  | selectStream .. => List EventRow
  | selectGlobal .. => List EventRow
  | deleteEvents _ => Nat
  | selectSnapshot _ => Option SnapshotRow
  | appliedMigrations => List MigrationRecord
  | _ => Unit

/-- The answer to a statement. -/
abbrev Answer (q : Statement) : Type := Except DatabaseFailure q.Result

/-- The table that a statement works on. -/
def table? : Statement → Option LedgerTable
  | insertEvents _ => some .events
  | selectRange .. => some .events
  | selectStream .. => some .events
  | selectGlobal .. => some .events
  | deleteEvents _ => some .events
  | upsertSnapshot _ => some .snapshots
  | selectSnapshot _ => some .snapshots
  | deleteSnapshots _ => some .snapshots
  | _ => none

end Statement

/-- The interface of a client to a server. -/
def statementInterface : Interface := ⟨Statement, Statement.Answer⟩

end EventLedger
