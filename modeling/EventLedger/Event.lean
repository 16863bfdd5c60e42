import EventLedger.Metadata

/-!
# Events

Events on their way to a stream and events as they are stored.

## Main definitions

* `PendingEvent` — an event that awaits its commit.
* `CommittedEvent` — a stored event, with `CommittedEvent.encode`, `CommittedEvent.decode` and the
  compact text `CommittedEvent.line`.
* `PendingEvent.isCommittedAs` — whether a stored event is this event of that batch.
* `trailingBatch` — the stored events at the end that share the last one's batch.
-/

namespace EventLedger

/-- An event that awaits its commit. -/
structure PendingEvent where
  /-- The sequence number that it expects to take. -/
  sequence : Nat
  /-- The type. -/
  type : EventType
  /-- The payload. -/
  payload : Json
  /-- The metadata. -/
  metadata : Metadata
  deriving Inhabited

/-- A stored event. -/
structure CommittedEvent where
  /-- The stream. -/
  key : StreamKey
  /-- The place in the stream, from 1. -/
  sequence : Nat
  /-- The place among all events. -/
  globalSequence : Nat
  /-- The type. -/
  type : EventType
  /-- The payload. -/
  payload : Json
  /-- The metadata. -/
  metadata : Metadata
  /-- The batch that it was committed in. -/
  batchId : Uuid

/-- Whether a stored event is this event as part of the batch. -/
def PendingEvent.isCommittedAs (e : PendingEvent) (c : CommittedEvent) (batchId : Uuid) : Bool :=
  c.batchId == batchId && c.sequence == e.sequence && c.type == e.type && c.payload.same e.payload

/-- The stored form of an event of a batch. -/
def PendingEvent.commit (e : PendingEvent) (key : StreamKey) (batchId : Uuid)
    (globalSequence : Nat) :
    CommittedEvent :=
  ⟨key, e.sequence, globalSequence, e.type, e.payload, e.metadata, batchId⟩

/-- The events at the end that share the last event's batch. -/
def trailingBatch (events : List CommittedEvent) : List CommittedEvent :=
  match events.getLast? with
  | none => []
  | some last => (events.reverse.takeWhile fun e => e.batchId == last.batchId).reverse

namespace CommittedEvent

/-- The fields of the record in declared order. -/
def fields (e : CommittedEvent) : List (String × Json) :=
  [("aggregate_id", .str e.key.id.value), ("aggregate_name", .str e.key.name),
    ("aggregate_sequence_number", .nat e.sequence),
    ("global_sequence_number", .nat e.globalSequence), ("event_name", .str e.type.name),
    ("event_version", .nat e.type.version), ("payload", e.payload),
    ("metadata", e.metadata.encode), ("batch_id", .str e.batchId.text)]

/-- The JSON form. -/
def encode (e : CommittedEvent) : Json := .object e.fields

/-- The compact text of the JSON form, with the fields in declared order. -/
def line (e : CommittedEvent) : String := Json.renderRecord e.fields

/-- The fields of the record and the checks of their values. -/
def shape : RecordShape :=
  { name := "struct CommittedEvent"
    fields := [("aggregate_id", Json.check Json.readAggregateId),
      ("aggregate_name", Json.check Json.readText),
      ("aggregate_sequence_number", Json.check (Json.readWord Json.word64)),
      ("global_sequence_number", Json.check (Json.readWord Json.word64)),
      ("event_name", Json.check Json.readText),
      ("event_version", Json.check (Json.readWord Json.word32)),
      ("payload", Json.readAny),
      ("metadata", Json.check Metadata.decode),
      ("batch_id", Json.check Json.readUuid)] }

/-- The stored event that a JSON value holds. -/
def decode (j : Json) : Except DecodeError CommittedEvent := do
  let fs ← shape.read j
  let id ← (Json.fieldOf fs "aggregate_id").readAggregateId
  let name ← (Json.fieldOf fs "aggregate_name").readText
  let sequence ← (Json.fieldOf fs "aggregate_sequence_number").readWord Json.word64
  let globalSequence ← (Json.fieldOf fs "global_sequence_number").readWord Json.word64
  let eventName ← (Json.fieldOf fs "event_name").readText
  let eventVersion ← (Json.fieldOf fs "event_version").readWord Json.word32
  let metadata ← Metadata.decode (Json.fieldOf fs "metadata")
  let batchId ← (Json.fieldOf fs "batch_id").readUuid
  pure
    { key := ⟨name, id⟩
      sequence := sequence
      globalSequence := globalSequence
      type := ⟨eventName, eventVersion⟩
      payload := Json.fieldOf fs "payload"
      metadata := metadata
      batchId := batchId }

end CommittedEvent

end EventLedger
