import EventLedger.Identity
import EventLedger.Text.Quoted

/-!
# Failures

Why an operation of the ledger fails.

## Main definitions

* `Error` — the causes, with `Error.message`, `Error.kind` and `Error.isConflict`.
* `AggregateId.parse` — the identifier of a text, or the failure that names the blank text.
-/

namespace EventLedger

/-- The greatest sequence number. -/
def greatestSequence : Nat := 18446744073709551615

/-- Why an operation fails. -/
inductive Error
  /-- A sequence number of a stream is already committed with other content. -/
  | concurrency (name : String) (id : AggregateId) (sequence : Nat)
  /-- The storage failed. -/
  | storage (reason : String)
  /-- A payload or a state cannot be written or read. -/
  | serialization (id : AggregateId) (sequence : Nat) (event : EventType) (reason : String)
  /-- The aggregate has no handler for an event. -/
  | missingHandler (aggregate : String) (event : EventType)
  /-- Upgrading an event still changed it in the last permitted pass. -/
  | upgradeLimit (event : EventType) (passes : Nat)
  /-- An upgrader's declared outputs lead back to its input. -/
  | upgraderCycle (path : String)
  /-- The event type already has an upgrader. -/
  | duplicateUpgrader (event : EventType)
  /-- A metadata key is reserved or already present. -/
  | metadataCollision (key : String)
  /-- The text of an aggregate identifier is blank. -/
  | invalidAggregateId (value : String)
  /-- A batch is empty or not numbered contiguously, or a number does not fit the storage. -/
  | invalidBatch (reason : String)
  /-- An argument is out of range. -/
  | invalidArgument (reason : String)
  /-- A rule of the domain refuses the command. -/
  | validation (reason : String)
  /-- The caller cancelled the operation. -/
  | cancelled
  /-- A sequence number would exceed the greatest one; the operation is given up. -/
  | sequenceOverflow
  deriving DecidableEq

namespace Error

/-- The wording of a failure. -/
def message : Error → String
  | .concurrency name id n =>
    s!"concurrency conflict on {name} {id.value}: sequence number {n} is already committed"
  | .storage reason => s!"storage error: {reason}"
  | .serialization id n event reason =>
    s!"serialization error for aggregate {id.value} at sequence {n} ({event.text}): {reason}"
  | .missingHandler aggregate event =>
    s!"aggregate {aggregate} has no handler for event {event.text}"
  | .upgradeLimit event passes =>
    s!"upgrading {event.text} did not terminate after {passes} passes"
  | .upgraderCycle path => s!"upgrader cycle detected: {path}"
  | .duplicateUpgrader event => s!"duplicate upgrader for {event.text}"
  | .metadataCollision key => s!"metadata key collision: {key}"
  | .invalidAggregateId value => s!"invalid aggregate id: {Text.quoted value}"
  | .invalidBatch reason => s!"invalid batch: {reason}"
  | .invalidArgument reason => s!"invalid argument: {reason}"
  | .validation reason => s!"validation error: {reason}"
  | .cancelled => "operation cancelled"
  | .sequenceOverflow => "sequence numbers are used up"

/-- The name of the kind of failure. -/
def kind : Error → String
  | .concurrency .. => "Concurrency"
  | .storage _ => "Storage"
  | .serialization .. => "Serialization"
  | .missingHandler .. => "MissingEventHandler"
  | .upgradeLimit .. => "UpgradeLimitExceeded"
  | .upgraderCycle _ => "UpgraderCycle"
  | .duplicateUpgrader _ => "DuplicateUpgrader"
  | .metadataCollision _ => "MetadataCollision"
  | .invalidAggregateId _ => "InvalidAggregateId"
  | .invalidBatch _ => "InvalidBatch"
  | .invalidArgument _ => "InvalidArgument"
  | .validation _ => "Validation"
  | .cancelled => "Cancelled"
  | .sequenceOverflow => "SequenceOverflow"

/-- Whether the failure is a conflict with another writer. -/
def isConflict : Error → Bool
  | .concurrency .. => true
  | _ => false

end Error

/-- The identifier with that text, or the failure that names the blank text. -/
def AggregateId.parse (s : String) : Except Error AggregateId :=
  match AggregateId.ofString? s with
  | some i => .ok i
  | none => .error (.invalidAggregateId s)

end EventLedger
