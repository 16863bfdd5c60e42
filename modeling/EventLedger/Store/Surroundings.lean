import EventLedger.Aggregate
import EventLedger.Storage
import EventLedger.Time.Instant

/-!
# The surroundings of a store

What a store asks while it loads or updates an aggregate: the storage, the cache, the clock, the
source of fresh identifiers and of chance, the caller's token and the caller's decision.

## Main definitions

* `LoadedStream` — a stream as it was read, which is also what the cache keeps.
* `StoreRequest`, `storeInterface` — the requests.
-/

namespace EventLedger

/-- A stream as it was read from storage. -/
structure LoadedStream (ε : Type) where
  /-- The snapshot that the reading started from. -/
  snapshot : Option Snapshot
  /-- The committed events after it. -/
  committed : List CommittedEvent
  /-- These events in their current form. -/
  upgraded : List ε
  /-- The sequence number of the last event, or of the snapshot if no event follows it. -/
  version : Nat

namespace LoadedStream

variable {ε : Type}

/-- The sequence number of the snapshot, 0 if there is none. -/
def snapshotVersion (s : LoadedStream ε) : Nat := (s.snapshot.map (·.sequence)).getD 0

end LoadedStream

/-- What a store asks of its surroundings. -/
inductive StoreRequest (σ ε : Type)
  /-- A request to the storage. -/
  | storage (q : StorageRequest)
  /-- The cached stream of a key. -/
  | cached (key : StreamKey)
  /-- The generation of a key. -/
  | generation (key : StreamKey)
  /-- Keep a stream that was read under a generation. -/
  | keep (key : StreamKey) (generation : Nat) (stream : LoadedStream ε)
  /-- Drop the cached stream of a key. -/
  | invalidate (key : StreamKey)
  /-- The state that a stored form holds. -/
  | readState (state : Json)
  /-- Whether the caller has cancelled. -/
  | isCancelled
  /-- Wait; the answer tells whether the caller cancelled meanwhile. -/
  | pause (d : Duration)
  /-- The time. -/
  | now
  /-- An identifier that was never given out. -/
  | freshId
  /-- A number between zero and one, by chance. -/
  | roll
  /-- The caller's decision on an aggregate: the root with the events that it emits. -/
  | decide (root : Root σ ε)

/-- The answer to a request of a store. -/
def StoreRequest.Answer {σ ε : Type} : StoreRequest σ ε → Type
  | .storage q => q.Answer
  | .cached _ => Option (LoadedStream ε)
  | .generation _ => Nat
  | .keep .. => Bool
  | .invalidate _ => Unit
  | .readState _ => Except String σ
  | .isCancelled => Bool
  | .pause _ => Bool
  | .now => Instant
  | .freshId => Uuid
  | .roll => Binary64
  | .decide _ => Except Error (Root σ ε)

/-- The interface of a store to its surroundings. -/
def storeInterface (σ ε : Type) : Interface := ⟨StoreRequest σ ε, StoreRequest.Answer⟩

/-- A call of a store. -/
abbrev StoreCall (σ ε α : Type) := Call (storeInterface σ ε) Error α

namespace StoreCall

variable {σ ε : Type}

/-- Makes a request. -/
def ask (q : StoreRequest σ ε) : StoreCall σ ε q.Answer := Call.ask (I := storeInterface σ ε) q

/-- The storage's answer to a request. -/
def tryStorage (q : StorageRequest) : StoreCall σ ε q.Answer := ask (.storage q)

/-- What a request to the storage yields; its failure is the call's. -/
def storage (q : StorageRequest) : StoreCall σ ε q.Result := do
  Call.ofExcept (← tryStorage q)

/-- The cached stream of a key. -/
def cached (key : StreamKey) : StoreCall σ ε (Option (LoadedStream ε)) := ask (.cached key)

/-- The generation of a key. -/
def generation (key : StreamKey) : StoreCall σ ε Nat := ask (.generation key)

/-- Keeps a stream that was read under a generation. -/
def keep (key : StreamKey) (generation : Nat) (stream : LoadedStream ε) : StoreCall σ ε Bool :=
  ask (.keep key generation stream)

/-- Drops the cached stream of a key. -/
def invalidate (key : StreamKey) : StoreCall σ ε Unit := ask (.invalidate key)

/-- The state that a stored form holds. -/
def readState (state : Json) : StoreCall σ ε (Except String σ) := ask (.readState state)

/-- Whether the caller has cancelled. -/
def isCancelled : StoreCall σ ε Bool := ask .isCancelled

/-- Waits; tells whether the caller cancelled meanwhile. -/
def wait (d : Duration) : StoreCall σ ε Bool := ask (.pause d)

/-- The time. -/
def now : StoreCall σ ε Instant := ask .now

/-- An identifier that was never given out. -/
def freshId : StoreCall σ ε Uuid := ask .freshId

/-- A number between zero and one, by chance. -/
def roll : StoreCall σ ε Binary64 := ask .roll

/-- The caller's decision on an aggregate. -/
def decide (root : Root σ ε) : StoreCall σ ε (Except Error (Root σ ε)) := ask (.decide root)

/-- Fails if the caller has cancelled. -/
def checkLive : StoreCall σ ε Unit := do
  if ← isCancelled then Call.fail .cancelled

/-- Waits, and fails if the caller cancels meanwhile. -/
def pause (d : Duration) : StoreCall σ ε Unit := do
  if ← wait d then Call.fail .cancelled

end StoreCall

end EventLedger
