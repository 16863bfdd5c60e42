import EventLedger.Tables.Server

/-!
# A server that fails as told

A server behind a connection on which chosen statements fail, with a list of the statements that
reached it.  Every failure of a real server that a client can observe has its place here: a
statement is refused, or the connection breaks before or after the statement was carried out.

## Main definitions

* `StatementKind`, `Fault`, `FaultyServer`, `FaultyServer.execute` — which statements fail
  and how, and what a server answers with such failures ahead.
-/

namespace EventLedger

/-- The kinds of statements that can be told to fail. -/
inductive StatementKind
  | begin
  | lock
  | insertEvents
  | commit
  | selectRange
  | selectStream
  | selectGlobal
  | deleteEvents
  | upsertSnapshot
  | selectSnapshot
  | deleteSnapshots
  | databaseName
  | runMigration
  | recordMigration
  deriving DecidableEq, Repr

namespace StatementKind

/-- All kinds. -/
def all : List StatementKind :=
  [.begin, .lock, .insertEvents, .commit, .selectRange, .selectStream, .selectGlobal, .deleteEvents,
    .upsertSnapshot, .selectSnapshot, .deleteSnapshots, .databaseName, .runMigration,
    .recordMigration]

/-- The name of a kind. -/
def name : StatementKind → String
  | .begin => "begin"
  | .lock => "lock"
  | .insertEvents => "insert_events"
  | .commit => "commit"
  | .selectRange => "select_range"
  | .selectStream => "select_stream"
  | .selectGlobal => "select_global"
  | .deleteEvents => "delete_events"
  | .upsertSnapshot => "upsert_snapshot"
  | .selectSnapshot => "select_snapshot"
  | .deleteSnapshots => "delete_snapshots"
  | .databaseName => "m_database"
  | .runMigration => "migration"
  | .recordMigration => "m_record"

/-- The kind of that name. -/
def ofName? (s : String) : Option StatementKind := all.find? fun k => k.name == s

end StatementKind

/-- The kind of a statement. -/
def Statement.kind? : Statement → Option StatementKind
  | .begin => some .begin
  | .lock => some .lock
  | .insertEvents _ => some .insertEvents
  | .commit => some .commit
  | .rollback => none
  | .abandon => none
  | .selectRange .. => some .selectRange
  | .selectStream .. => some .selectStream
  | .selectGlobal .. => some .selectGlobal
  | .deleteEvents _ => some .deleteEvents
  | .upsertSnapshot _ => some .upsertSnapshot
  | .selectSnapshot _ => some .selectSnapshot
  | .deleteSnapshots _ => some .deleteSnapshots
  | .databaseName => some .databaseName
  | .appliedMigrations => none
  | .runMigration _ => some .runMigration
  | .recordMigration _ => some .recordMigration

/-- How a statement fails. -/
inductive FaultEffect
  /-- The server refuses it with a code. -/
  | refuse (code : String)
  /-- The connection breaks, after the statement was carried out if `applied`. -/
  | disconnect (applied : Bool)
  deriving DecidableEq, Repr

/-- An order to let statements of a kind fail. -/
structure Fault where
  /-- The kind. -/
  kind : StatementKind
  /-- How many of them pass first. -/
  after : Nat
  /-- How many fail then. -/
  times : Nat
  /-- How they fail. -/
  effect : FaultEffect

/-- What the first armed fault for a kind does to the next statement of that kind, and the faults
that stay armed. -/
def Fault.next? (kind : StatementKind) : List Fault → Option FaultEffect × List Fault
  | [] => (none, [])
  | f :: rest =>
    if f.kind ≠ kind ∨ f.times = 0 then
      let r := next? kind rest
      (r.1, f :: r.2)
    else if 0 < f.after then (none, { f with after := f.after - 1 } :: rest)
    else (some f.effect, { f with times := f.times - 1 } :: rest)

/-- A server whose statements fail as told. -/
structure FaultyServer where
  /-- The server. -/
  server : Server := {}
  /-- The armed faults, in the order in which they were armed. -/
  faults : List Fault := []
  /-- The statements that reached the server, the last one first. -/
  reached : List StatementKind := []

namespace FaultyServer

/-- What a client reports when its connection breaks while it waits for an answer. -/
def broken : DatabaseFailure := .disconnected "expected to read 5 bytes, got 0 bytes at EOF"

/-- The answer to a session's statement, and the server after it. -/
def execute (s : FaultyServer) (session : Nat) (q : Statement) : q.Answer × FaultyServer :=
  -- a statement on a table that does not exist is refused before a fault can meet it
  match s.server.lacks q, q.kind? with
  | some t, _ => (.error (Server.undefinedTable t), s)
  | none, none =>
    let r := s.server.perform session q
    (r.1, { s with server := r.2 })
  | none, some kind =>
    let hit := Fault.next? kind s.faults
    let s := { s with faults := hit.2, reached := kind :: s.reached }
    match hit.1 with
    | none =>
      let r := s.server.perform session q
      (r.1, { s with server := r.2 })
    | some (.refuse code) => (.error (.refused (some code) "injected"), s)
    | some (.disconnect applied) =>
      let server := if applied then (s.server.perform session q).2 else s.server
      (.error broken, { s with server := server.withoutTransaction session })

/-- Takes the list of the statements that reached the server, in their order. -/
def takeReached (s : FaultyServer) : List StatementKind × FaultyServer :=
  (s.reached.reverse, { s with reached := [] })

end FaultyServer

end EventLedger
