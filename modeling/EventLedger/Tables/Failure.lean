import EventLedger.Error

/-!
# Failures of a database

What goes wrong between a storage kept in tables and the database server, and which failures are
worth another attempt.

## Main definitions

* `DatabaseFailure`, `DatabaseFailure.message`, `DatabaseFailure.isTransient` — what a server or a
  connection reports, and whether another attempt is worth it.
* `TableError` — a database failure, or a failure of the ledger found while working on the tables.
* `TableError.toError` — the failure that the storage reports.
-/

namespace EventLedger

/-- What a database operation reports. -/
inductive DatabaseFailure
  /-- The server refused a statement, with a code of five characters. -/
  | refused (code : Option String) (text : String)
  /-- No connection became free in time. -/
  | poolTimedOut
  /-- The pool of connections was closed. -/
  | poolClosed
  /-- The connection broke or could not be made. -/
  | disconnected (text : String)
  /-- A row was expected and none came. -/
  | rowNotFound
  /-- A background worker died. -/
  | workerCrashed
  /-- The server sent something unexpected. -/
  | protocol (text : String)
  /-- The answer lacks a column. -/
  | columnNotFound (name : String)
  /-- A column holds what it should not. -/
  | columnDecode (column reason : String)
  /-- The address of the database cannot be read. -/
  | configuration (text : String)
  deriving DecidableEq, Repr

namespace DatabaseFailure

/-- The wording of a failure. -/
def message : DatabaseFailure → String
  | .refused _ text => s!"error returned from database: {text}"
  | .poolTimedOut => "pool timed out while waiting for an open connection"
  | .poolClosed => "attempted to acquire a connection on a closed pool"
  | .disconnected text => s!"error communicating with database: {text}"
  | .rowNotFound => "no rows returned by a query that expected to return at least one row"
  | .workerCrashed => "attempted to communicate with a crashed background worker"
  | .protocol text => s!"encountered unexpected or invalid data: {text}"
  | .columnNotFound name => s!"no column found for name: {name}"
  | .columnDecode column reason =>
    s!"error occurred while decoding column \"{column}\": {reason}"
  | .configuration text => s!"error with configuration: {text}"

/-- The failure of a statement with more arguments than one statement may bring. -/
def tooManyArguments (count : Nat) : DatabaseFailure :=
  .protocol ("PgConnection::run(): too many arguments for query: " ++ toString count ++
    " (sqlx_postgres::connection::executor:220)")

/-- The code of a violated uniqueness. -/
def uniqueViolation : String := "23505"

/-- Whether the server found a place taken that has to be unique. -/
def isUniqueViolation : DatabaseFailure → Bool
  | .refused (some code) _ => code == uniqueViolation
  | _ => false

/-- The codes worth another attempt: serialization failure, deadlock, lock not available. -/
def transientCodes : List String := ["40001", "40P01", "55P03"]

/-- Whether another attempt may succeed. -/
def isTransient : DatabaseFailure → Bool
  | .refused (some code) _ => transientCodes.contains code
  | .poolTimedOut => true
  | .disconnected _ => true
  | _ => false

end DatabaseFailure

/-- A failure while working on the tables. -/
inductive TableError
  /-- The database failed. -/
  | database (f : DatabaseFailure)
  /-- A failure of the ledger, which no further attempt mends. -/
  | ledger (e : Error)
  deriving DecidableEq

namespace TableError

/-- The wording of a failure. -/
def message : TableError → String
  | .database f => s!"database error: {f.message}"
  | .ledger e => e.message

/-- The name of the kind of failure. -/
def kind : TableError → String
  | .database _ => "Database"
  | .ledger e => e.kind

/-- The failure that the storage reports. -/
def toError : TableError → Error
  | .database f => .storage f.message
  | .ledger e => e

end TableError

end EventLedger
