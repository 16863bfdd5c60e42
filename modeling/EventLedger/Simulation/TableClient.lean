import EventLedger.Simulation.RetryClient
import EventLedger.Tables.Faults
import EventLedger.Tables.Migrate
import EventLedger.Tables.Storage

/-!
# Clients of a database server in simulated time

The storage in tables, run against whatever answers its statements.

## Main definitions

* `serveOver` — a storage request served by statements.
* `TableClient`, `TableClient.serve`, `TableClient.migrate` — a client of a server that fails as
  told.
-/

namespace EventLedger.Simulation

/-- The answer to a storage request of a caller who has cancelled or not; `execute` answers the
statements. -/
def serveOver {σ : Type} (execute : (q : Statement) → σ → q.Answer × σ) (strategy : RetryStrategy)
    (q : StorageRequest) (cancelled : Bool) (c : RetryClient σ) : q.Answer × RetryClient σ :=
  let r := RetryClient.run (I := statementInterface) execute (TableStorage.serve strategy q)
    { c with token := { fired := cancelled } }
  (r.1.mapError TableError.toError, r.2)

/-- A client of a database server. -/
abbrev TableClient := RetryClient FaultyServer

namespace TableClient

/-- The client after something was done at the server behind its back. -/
def touch (c : TableClient) (f : Server → Server) : TableClient :=
  { c with inner := { c.inner with server := f c.inner.server } }

/-- The client of a server with one more fault. -/
def arm (c : TableClient) (f : Fault) : TableClient :=
  { c with inner := { c.inner with faults := c.inner.faults ++ [f] } }

/-- The client's session on the server. -/
def session : Nat := 0

/-- The server's answer to a statement. -/
def execute (q : Statement) (s : FaultyServer) : q.Answer × FaultyServer := s.execute session q

/-- The answer to a storage request. -/
def serve (strategy : RetryStrategy) (q : StorageRequest) (cancelled : Bool) (c : TableClient) :
    q.Answer × TableClient :=
  serveOver execute strategy q cancelled c

/-- Brings the schema up to date. -/
def migrate (c : TableClient) : Except MigrationError Unit × TableClient :=
  let r := Call.runState (I := statementInterface) execute EventLedger.migrate c.inner
  (r.1, { c with inner := r.2 })

end TableClient

end EventLedger.Simulation
