import EventLedger.Event
import EventLedger.Json.Parser
import EventLedger.Json.Printer
import EventLedger.Snapshot
import EventLedger.Tables.Failure

/-!
# Rows

The two tables that hold events and snapshots.  Their number columns are signed and bounded, so
what does not fit is refused on the way in, and what is negative on the way out.  Values are kept as
text.

## Main definitions

* `toLong`, `ofLong` — sequence numbers in a signed column of 64 bits.
* `storedValue` — a value after it has been in a column.
* `EventDraft`, `EventRow`, `EventRow.decode` — an event on its way into the table and in it.
* `SnapshotRow`, `SnapshotRow.decode` — a snapshot in the table.
-/

namespace EventLedger

/-- The greatest number of a signed column of 64 bits. -/
def greatestLong : Nat := 9223372036854775807

/-- The greatest number of a signed column of 32 bits. -/
def greatestInteger : Nat := 2147483647

/-- A number as an argument of a statement, if it fits the column. -/
def toLong (n : Nat) (what : String) : Except Error Int :=
  if n ≤ greatestLong then .ok n
  else .error (.invalidArgument s!"{what} {n} exceeds the BIGINT range")

/-- A number of a column, unless it is negative. -/
def ofLong (n : Int) (column : String) : Except Error Nat :=
  if 0 ≤ n then .ok n.toNat else .error (.storage s!"negative {column}: {n}")

/-- What is read back of a value from a column, which keeps its text.  It differs from the value
only where a floating-point number is not read exactly. -/
def storedValue (j : Json) : Json := (Json.parse? j.render).getD j

/-- An event on its way into the table. -/
structure EventDraft where
  /-- The name of the kind of aggregate. -/
  name : String
  /-- The identifier of the aggregate. -/
  id : String
  /-- The sequence number in the stream. -/
  sequence : Int
  /-- The name of the event. -/
  event : String
  /-- The schema version of the event. -/
  version : Int
  /-- The payload. -/
  payload : Json
  /-- The metadata. -/
  metadata : Json
  /-- The batch. -/
  batchId : Uuid

/-- A row of the table of events. -/
structure EventRow extends EventDraft where
  /-- The global number, drawn when the row was inserted. -/
  global : Int

/-- A row of the table of snapshots. -/
structure SnapshotRow where
  /-- The name of the kind of aggregate. -/
  name : String
  /-- The identifier of the aggregate. -/
  id : String
  /-- The sequence number of the snapshot. -/
  sequence : Int
  /-- The state. -/
  state : Json
  /-- The metadata. -/
  metadata : Json

/-- The event as the table keeps it. -/
def EventDraft.stored (d : EventDraft) : EventDraft :=
  { d with payload := storedValue d.payload, metadata := storedValue d.metadata }

/-- The snapshot as the table keeps it. -/
def SnapshotRow.stored (r : SnapshotRow) : SnapshotRow :=
  { r with state := storedValue r.state, metadata := storedValue r.metadata }

/-- Whether two drafts are for the same place in the same stream. -/
def EventDraft.collides (d e : EventDraft) : Bool :=
  d.name == e.name && d.id == e.id && d.sequence == e.sequence

/-- The metadata of a column. -/
def decodeMetadata (j : Json) : Except TableError Metadata :=
  match Metadata.decode j with
  | .ok m => .ok m
  | .error cause => .error (.database (.columnDecode "metadata" cause.message))

namespace EventRow

/-- Whether the row belongs to a stream. -/
def inStream (r : EventRow) (key : StreamKey) : Bool := r.name == key.name && r.id == key.id.value

/-- The stored event that a row holds; the first column that holds what it should not is reported.
-/
def decode (r : EventRow) : Except TableError CommittedEvent := do
  let metadata ← decodeMetadata r.metadata
  let id ← (AggregateId.parse r.id).mapError .ledger
  let sequence ← (ofLong r.sequence "aggregate_sequence_number").mapError .ledger
  let globalSequence ← (ofLong r.global "global_sequence_number").mapError .ledger
  let version ← (ofLong r.version "event_version").mapError .ledger
  pure
    { key := ⟨r.name, id⟩
      sequence := sequence
      globalSequence := globalSequence
      type := ⟨r.event, version⟩
      payload := r.payload
      metadata := metadata
      batchId := r.batchId }

end EventRow

namespace SnapshotRow

/-- Whether the row belongs to an aggregate. -/
def isOf (r : SnapshotRow) (key : StreamKey) : Bool := r.name == key.name && r.id == key.id.value

/-- The snapshot that a row of an aggregate holds. -/
def decode (key : StreamKey) (r : SnapshotRow) : Except TableError Snapshot := do
  let metadata ← decodeMetadata r.metadata
  let sequence ← (ofLong r.sequence "aggregate_sequence_number").mapError .ledger
  pure ⟨key, sequence, r.state, metadata⟩

end SnapshotRow

end EventLedger
