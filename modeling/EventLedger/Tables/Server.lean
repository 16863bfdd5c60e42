import EventLedger.OrderedMap
import EventLedger.Tables.Statement

/-!
# The server

What a database server does with the statements of its clients.  Each client has a session of its
own; the rows of an open transaction are seen by nobody until it commits, while the global numbers
that it draws are gone for good.

## Main definitions

* `Transaction`, `Server` — an open transaction, and a server with its tables and sessions.
* `Server.execute` — the answer to a statement of a session.
* `Server.isBlocked` — whether a statement has to wait for another session.
-/

namespace EventLedger

/-- A transaction that is open. -/
structure Transaction where
  /-- The rows that it inserted. -/
  rows : List EventRow := []
  /-- The tables that it created. -/
  created : List LedgerTable := []
  /-- The migrations that it noted. -/
  records : List MigrationRecord := []
  /-- Whether it holds the commit lock. -/
  holdsLock : Bool := false

/-- A database server. -/
structure Server where
  /-- The visible rows of the table of events, oldest first. -/
  events : List EventRow := []
  /-- The global number that is drawn next. -/
  nextGlobal : Int := 1
  /-- The rows of the table of snapshots. -/
  snapshots : List SnapshotRow := []
  /-- The migrations that were carried out. -/
  records : List MigrationRecord := []
  /-- The tables that exist. -/
  tables : List LedgerTable := [.events, .snapshots]
  /-- The open transactions by session. -/
  transactions : OrderedMap Nat Transaction := .empty

namespace Server

/-- The server with one more visible row, whatever it says; the number drawn next exceeds it. -/
def putRow (s : Server) (row : EventRow) : Server :=
  { s with
    events := s.events ++ [⟨row.stored, row.global⟩]
    nextGlobal := max s.nextGlobal (row.global + 1) }

/-- The server with one more snapshot, whatever it says. -/
def putSnapshot (s : Server) (row : SnapshotRow) : Server :=
  { s with snapshots := s.snapshots ++ [row.stored] }

/-- The server with a note that a migration was carried out, whatever migration that is. -/
def putRecord (s : Server) (version : Int) (modified dirty : Bool) : Server :=
  let known := migrations.any fun m => m.version == version
  { s with records := s.records ++ [⟨version, "raw", known && !modified, !dirty⟩] }

/-- The visible rows by global number, and those of one number by sequence number. -/
def rows (s : Server) : List EventRow :=
  s.events.mergeSort fun a b =>
    a.global < b.global || (a.global == b.global && a.sequence ≤ b.sequence)

/-- The open transaction of a session. -/
def transaction (s : Server) (session : Nat) : Transaction :=
  (s.transactions.get? session).getD {}

/-- The server with another open transaction of a session. -/
def withTransaction (s : Server) (session : Nat) (t : Transaction) : Server :=
  { s with transactions := s.transactions.insert session t }

/-- The server after a session's transaction ended without effect, or its connection broke. -/
def withoutTransaction (s : Server) (session : Nat) : Server :=
  { s with transactions := s.transactions.erase session }

/-- Rows for drafts, numbered from `next` on, up to the first that takes a place which `taken`
holds; and the next number.  The number of the row that fails is drawn, too. -/
def draw : List EventRow → Int → List EventDraft → Option (List EventRow) × Int
  | _, next, [] => (some [], next)
  | taken, next, d :: rest =>
    if taken.any fun r => d.collides r.toEventDraft then (none, next + 1)
    else
      let row : EventRow := ⟨d.stored, next⟩
      let r := draw (row :: taken) (next + 1) rest
      (r.1.map (row :: ·), r.2)

/-- Inserts rows into the transaction of a session. -/
def insert (s : Server) (session : Nat) (drafts : List EventDraft) :
    Except DatabaseFailure (List Int) × Server :=
  let t := s.transaction session
  let r := draw (s.events ++ t.rows) s.nextGlobal drafts
  -- numbers that were drawn are gone, whether the rows stay or not
  let s := { s with nextGlobal := r.2 }
  match r.1 with
  | none =>
    (.error (.refused (some DatabaseFailure.uniqueViolation)
      "duplicate key value violates unique constraint"), s)
  | some rows =>
    (.ok (rows.map (·.global)), s.withTransaction session { t with rows := t.rows ++ rows })

/-- Makes what a session's transaction did visible. -/
def commit (s : Server) (session : Nat) : Server :=
  let t := s.transaction session
  let s := s.withoutTransaction session
  { s with
    events := s.events ++ t.rows
    tables := s.tables ++ t.created
    records := s.records ++ t.records }

/-- The rows that satisfy a condition, by sequence number. -/
def bySequence (s : Server) (p : EventRow → Bool) : List EventRow :=
  (s.events.filter p).mergeSort fun a b => a.sequence ≤ b.sequence

/-- The rows that satisfy a condition, by global number. -/
def byGlobal (s : Server) (p : EventRow → Bool) : List EventRow :=
  (s.events.filter p).mergeSort fun a b => a.global ≤ b.global

/-- Puts a snapshot in the place of an older one of its aggregate, or at the end if there is none.
-/
def upsert (row : SnapshotRow) : List SnapshotRow → List SnapshotRow
  | [] => [row]
  | r :: rest =>
    if r.name = row.name ∧ r.id = row.id then
      (if r.sequence < row.sequence then row else r) :: rest
    else r :: upsert row rest

/-- Whether a statement works on a table that does not exist. -/
def lacks (s : Server) (q : Statement) : Option LedgerTable :=
  q.table?.filter fun t => !s.tables.contains t

/-- The refusal of a statement on a table that does not exist. -/
def undefinedTable (t : LedgerTable) : DatabaseFailure :=
  .refused (some "42P01") s!"relation \"{t.name}\" does not exist"

/-- What a session's statement yields and does, its table being there. -/
def perform (s : Server) (session : Nat) : (q : Statement) → q.Answer × Server
  | .begin => (.ok (), s.withTransaction session {})
  | .lock => (.ok (), s.withTransaction session { s.transaction session with holdsLock := true })
  | .insertEvents rows => s.insert session rows
  | .commit => (.ok (), s.commit session)
  | .rollback => (.ok (), s.withoutTransaction session)
  | .abandon => (.ok (), s.withoutTransaction session)
  | .selectRange key first last =>
    (.ok (s.bySequence fun r => r.inStream key && first ≤ r.sequence && r.sequence ≤ last), s)
  | .selectStream key start => (.ok (s.bySequence fun r => r.inStream key && start ≤ r.sequence), s)
  | .selectGlobal start limit =>
    (.ok ((s.byGlobal fun r => start ≤ r.global).take limit.toNat), s)
  | .deleteEvents key =>
    (.ok (s.events.filter (·.inStream key)).length,
      { s with events := s.events.filter fun r => !r.inStream key })
  | .upsertSnapshot row => (.ok (), { s with snapshots := upsert row.stored s.snapshots })
  | .selectSnapshot key => (.ok (s.snapshots.find? (·.isOf key)), s)
  | .deleteSnapshots key =>
    (.ok (), { s with snapshots := s.snapshots.filter fun r => !r.isOf key })
  | .databaseName => (.ok (), s)
  | .appliedMigrations => (.ok s.records, s)
  | .runMigration m =>
    let t := s.transaction session
    (.ok (), s.withTransaction session { t with created := t.created ++ [m.creates] })
  | .recordMigration m =>
    let t := s.transaction session
    (.ok (), s.withTransaction session { t with records := t.records ++ [m.record] })

/-- The answer to a session's statement, and the server after it. -/
def execute (s : Server) (session : Nat) (q : Statement) : q.Answer × Server :=
  match s.lacks q with
  | some t => (.error (undefinedTable t), s)
  | none => s.perform session q

/-- Whether a session's statement has to wait: the commit lock is held by one transaction at a time.
-/
def isBlocked (s : Server) (session : Nat) : Statement → Bool
  | .lock => s.transactions.entries.any fun e => e.1 != session && e.2.holdsLock
  | _ => false

end Server

end EventLedger
