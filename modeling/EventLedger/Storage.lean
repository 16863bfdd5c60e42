import EventLedger.Call
import EventLedger.EventLog
import EventLedger.Snapshot

/-!
# Storage

What a storage of events and snapshots is asked, and the storage held in memory.

## Main definitions

* `StorageRequest`, `storageInterface` — the requests, each of which may fail.
* `MemoryStorage`, `MemoryStorage.answer` — an event log and a shelf of snapshots.
-/

namespace EventLedger

/-- What a storage is asked. -/
inductive StorageRequest
  /-- Store a batch. -/
  | commit (key : StreamKey) (batchId : Uuid) (events : List PendingEvent)
  /-- Read a stream from a sequence number on. -/
  | load (key : StreamKey) (start : Nat)
  /-- Read up to `size` events of all streams from a global number on. -/
  | page (start size : Nat)
  /-- Remove a stream. -/
  | delete (key : StreamKey)
  /-- Read the newest snapshot of an aggregate. -/
  | loadSnapshot (key : StreamKey)
  /-- Bring a snapshot. -/
  | storeSnapshot (snapshot : Snapshot)
  /-- Remove the snapshots of an aggregate. -/
  | deleteSnapshots (key : StreamKey)

namespace StorageRequest

/-- What a request yields if it succeeds. -/
def Result : StorageRequest → Type
  | commit .. => List CommittedEvent
  | load .. => List CommittedEvent
  | page .. => Page
  | delete .. => Nat
  | loadSnapshot .. => Option Snapshot
  | storeSnapshot .. => Unit
  | deleteSnapshots .. => Unit

/-- The answer to a request. -/
abbrev Answer (q : StorageRequest) : Type := Except Error q.Result

/-- Whether a request is refused once its client has cancelled.  What is written is not: once
started it is carried through. -/
def heedsCancel : StorageRequest → Bool
  | commit .. => false
  | storeSnapshot .. => false
  | _ => true

/-- Whether a request is about snapshots. -/
def aboutSnapshots : StorageRequest → Bool
  | loadSnapshot _ => true
  | storeSnapshot _ => true
  | deleteSnapshots _ => true
  | _ => false

end StorageRequest

/-- Events and snapshots held in memory. -/
structure MemoryStorage where
  /-- The events. -/
  events : EventLog := .empty
  /-- The snapshots. -/
  shelf : SnapshotShelf := .empty
  deriving Inhabited

namespace MemoryStorage

/-- The answer to a request of a client that has not cancelled, and the storage after it. -/
def serve (m : MemoryStorage) : (q : StorageRequest) → q.Answer × MemoryStorage
  | .commit key batchId events =>
    let r := m.events.commit key batchId events
    (r.1, { m with events := r.2 })
  | .load key start => (.ok (m.events.load key start), m)
  | .page start size => (m.events.page start size, m)
  | .delete key =>
    let r := m.events.delete key
    (.ok r.1, { m with events := r.2 })
  | .loadSnapshot key => (.ok (m.shelf.load key), m)
  | .storeSnapshot s => (.ok (), { m with shelf := m.shelf.store s })
  | .deleteSnapshots key => (.ok (), { m with shelf := m.shelf.delete key })

/-- The answer to a request, which is refused if it heeds cancelling and its client has cancelled.
-/
def answer (m : MemoryStorage) (cancelled : Bool) (q : StorageRequest) : q.Answer × MemoryStorage :=
  if cancelled && q.heedsCancel then (.error .cancelled, m) else m.serve q

end MemoryStorage

end EventLedger
