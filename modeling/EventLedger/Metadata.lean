import EventLedger.Json.Decode

/-!
# Metadata

The texts that accompany an event or a snapshot, by key.  Entries are only ever added: a key that is
present keeps its text.  Some keys are reserved for the ledger itself.

## Main definitions

* `Metadata`, `Metadata.insert`, `Metadata.merge` — entries by key, and how entries are added.
* `Metadata.reservedKeys` — the keys that providers may not use.
* `Metadata.encode`, `Metadata.decode` — the JSON form, an object of strings.
-/

namespace EventLedger

/-- Texts by key. -/
abbrev Metadata := OrderedMap String String

namespace Metadata

/-- Key of the aggregate's identifier. -/
def aggregateIdKey : String := "aggregate_id"

/-- Key of the aggregate's name. -/
def aggregateNameKey : String := "aggregate_name"

/-- Key of the sequence number in the stream. -/
def sequenceKey : String := "aggregate_sequence_number"

/-- Key of the event's name. -/
def eventNameKey : String := "event_name"

/-- Key of the event's schema version. -/
def eventVersionKey : String := "event_version"

/-- Key of the time of the commit. -/
def timestampKey : String := "timestamp"

/-- Key of the command that produced the event. -/
def sourceIdKey : String := "source_id"

/-- Key of the batch that the event was committed in. -/
def batchIdKey : String := "batch_id"

/-- The keys that the ledger itself writes. -/
def reservedKeys : List String :=
  [aggregateIdKey, aggregateNameKey, sequenceKey, eventNameKey, eventVersionKey, timestampKey,
    sourceIdKey, batchIdKey]

/-- Whether a key is one that the ledger itself writes. -/
def isReserved (key : String) : Bool := reservedKeys.contains key

/-- The metadata with one more entry, unless the key is present. -/
def insert (m : Metadata) (key value : String) : Except Error Metadata :=
  if m.contains key then .error (.metadataCollision key) else .ok (OrderedMap.insert m key value)

/-- The command that produced the event. -/
def sourceId (m : Metadata) : Option String := m.get? sourceIdKey

/-- The batch that the event was committed in, if the entry writes an identifier. -/
def batchId (m : Metadata) : Option Uuid := (m.get? batchIdKey).bind Uuid.parse?

/-- Entries added one after the other, up to the first whose key is reserved or present: the
metadata then reached, and that key if there was one. -/
def merge (m : Metadata) : List (String × String) → Metadata × Option String
  | [] => (m, none)
  | e :: rest =>
    if isReserved e.1 || m.contains e.1 then (m, some e.1)
    else merge (OrderedMap.insert m e.1 e.2) rest

/-- All entries added, or the collision. -/
def mergeAll (m : Metadata) (entries : List (String × String)) : Except Error Metadata :=
  match m.merge entries with
  | (m', none) => .ok m'
  | (_, some key) => .error (.metadataCollision key)

/-- The object of the entries. -/
def encode (m : Metadata) : Json := .obj (m.entries.map fun e => (e.1, .str e.2))

/-- The metadata that an object of strings holds. -/
def decode : Json → Except DecodeError Metadata
  | .obj fields => do
    let entries ← fields.mapM fun f => do pure (f.1, ← f.2.readText)
    pure (OrderedMap.ofList entries)
  | j => .error (j.unexpected "a map")

end Metadata

end EventLedger
