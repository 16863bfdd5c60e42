import EventLedger.Metadata

/-!
# Snapshots

The state of an aggregate at a sequence number, written so that a later load need not replay the
events before it, and the shelf that keeps the newest snapshot of each aggregate.

## Main definitions

* `Snapshot`, `Snapshot.encode`, `Snapshot.decode` — a snapshot and its JSON form.
* `SnapshotStrategy`, `SnapshotStrategy.decides` — when to write one.
* `SnapshotShelf` — the newest snapshot of each aggregate.
-/

namespace EventLedger

/-- The state of an aggregate at a sequence number. -/
structure Snapshot where
  /-- The aggregate. -/
  key : StreamKey
  /-- The sequence number of the last event that the state reflects. -/
  sequence : Nat
  /-- The state. -/
  state : Json
  /-- The metadata. -/
  metadata : Metadata

namespace Snapshot

/-- The fields of the record in declared order. -/
def fields (s : Snapshot) : List (String × Json) :=
  [("aggregate_id", .str s.key.id.value), ("aggregate_name", .str s.key.name),
    ("aggregate_sequence_number", .nat s.sequence), ("state", s.state),
    ("metadata", s.metadata.encode)]

/-- The JSON form. -/
def encode (s : Snapshot) : Json := .object s.fields

/-- The compact text of the JSON form, with the fields in declared order. -/
def line (s : Snapshot) : String := Json.renderRecord s.fields

/-- The fields of the record and the checks of their values. -/
def shape : RecordShape :=
  { name := "struct Snapshot"
    fields := [("aggregate_id", Json.check Json.readAggregateId),
      ("aggregate_name", Json.check Json.readText),
      ("aggregate_sequence_number", Json.check (Json.readWord Json.word64)),
      ("state", Json.readAny),
      ("metadata", Json.check Metadata.decode)] }

/-- The snapshot that a JSON value holds. -/
def decode (j : Json) : Except DecodeError Snapshot := do
  let fs ← shape.read j
  let id ← (Json.fieldOf fs "aggregate_id").readAggregateId
  let name ← (Json.fieldOf fs "aggregate_name").readText
  let sequence ← (Json.fieldOf fs "aggregate_sequence_number").readWord Json.word64
  let metadata ← Metadata.decode (Json.fieldOf fs "metadata")
  pure ⟨⟨name, id⟩, sequence, Json.fieldOf fs "state", metadata⟩

end Snapshot

/-- When a snapshot is written after a commit. -/
inductive SnapshotStrategy
  /-- When at least `n` events were committed since the last one; never for `n = 0`. -/
  | every (n : Nat)
  /-- With a probability, whenever events were committed since the last one. -/
  | probability (p : Binary64)
  deriving DecidableEq, Repr

namespace SnapshotStrategy

/-- Whether the decision at these versions takes a roll of chance. -/
def rolls (s : SnapshotStrategy) (version last : Nat) : Bool :=
  match s with
  | .every _ => false
  | .probability _ => last < version

/-- Whether to write a snapshot at `version` when the last one is at `last`; `roll` is a number
between zero and one, drawn if the decision takes one. -/
def decides (s : SnapshotStrategy) (version last : Nat) (roll : Binary64) : Bool :=
  match s with
  | .every n => 0 < n && n ≤ version - last
  | .probability p => last < version && roll.below p.clampToUnit

end SnapshotStrategy

/-- The newest snapshot of each aggregate. -/
structure SnapshotShelf where
  /-- The snapshots by aggregate. -/
  newest : OrderedMap StreamKey Snapshot
  deriving Inhabited

namespace SnapshotShelf

/-- A shelf without snapshots. -/
def empty : SnapshotShelf := ⟨.empty⟩

/-- The newest snapshot of an aggregate. -/
def load (s : SnapshotShelf) (key : StreamKey) : Option Snapshot := s.newest.get? key

/-- The shelf after a snapshot was brought: it is kept if it is newer than the one there. -/
def store (s : SnapshotShelf) (snapshot : Snapshot) : SnapshotShelf :=
  match s.load snapshot.key with
  | some current =>
    if current.sequence < snapshot.sequence then ⟨s.newest.insert snapshot.key snapshot⟩ else s
  | none => ⟨s.newest.insert snapshot.key snapshot⟩

/-- The shelf without a snapshot of the aggregate. -/
def delete (s : SnapshotShelf) (key : StreamKey) : SnapshotShelf := ⟨s.newest.erase key⟩

end SnapshotShelf

end EventLedger
