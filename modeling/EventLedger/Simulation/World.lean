import EventLedger.Simulation.Caller
import EventLedger.Simulation.Doubles
import EventLedger.Store
import EventLedger.StreamCache

/-!
# Stores in a simulated world

Stores that share a storage, caches and a clock, and calls of these stores in which chosen requests
fail or cancel the caller.

## Main definitions

* `World` — what the stores share.
* `Site` — a store and its place in the world.
* `Mishaps` — what goes wrong during a call.
* `Visit`, `Visit.answer` — a call under way, and the answers to its requests.
-/

namespace EventLedger.Simulation

/-- The storage behind a store. -/
inductive Backend
  /-- The counted storage behind the rival. -/
  | counted
  /-- The storage in memory itself. -/
  | direct
  /-- A storage that is down. -/
  | failing
  deriving DecidableEq, Repr

/-- How the storage of snapshots fails during a call. -/
inductive SnapshotMishap
  /-- Reading is refused as if the caller had cancelled. -/
  | loadCancelled
  /-- Reading fails. -/
  | loadFails
  /-- Writing fails. -/
  | storeFails
  deriving DecidableEq, Repr

/-- What goes wrong during a call.  Readings and commits are counted from 1. -/
structure Mishaps where
  /-- The reading after which the caller cancels. -/
  cancelOnLoad : Option Nat := none
  /-- The commit at whose start the caller cancels. -/
  cancelOnCommit : Option Nat := none
  /-- The reading that fails. -/
  failLoad : Option Nat := none
  /-- The commit that fails. -/
  failCommit : Option Nat := none
  /-- How the storage of snapshots fails. -/
  snapshots : Option SnapshotMishap := none
  deriving Inhabited

/-- A store and its place in the world. -/
structure Site (σ ε : Type) where
  /-- Which of the world's stores it is. -/
  number : Nat
  /-- The store. -/
  store : AggregateStore σ ε
  /-- The storage behind it. -/
  backend : Backend := .counted
  /-- Whether its storage of snapshots is down. -/
  snapshotsFail : Bool := false
  /-- The cache that it uses, by name. -/
  cache : Option String := none
  /-- The time that its clock shows, if it stands still. -/
  frozenAt : Option Instant := none
  /-- The reading of a stored state, counted from 1, that fails. -/
  failingRead : Option Nat := none

/-- How long entries of a cache are kept if nothing else is said. -/
def standardTtl : Duration := .ofSeconds 60

/-- What the stores share. -/
structure World (ε : Type) where
  /-- The storage. -/
  doubles : Doubles := {}
  /-- The caches by name. -/
  caches : OrderedMap String (StreamCache (LoadedStream ε)) := .empty
  /-- The clock. -/
  clock : Instant := ⟨0, 0⟩
  /-- The milliseconds that callers have waited. -/
  now : Nat := 0
  /-- The rolls that are still to come, by store. -/
  rolls : OrderedMap Nat (List Binary64) := .empty
  /-- How often each store has read a stored state. -/
  reads : OrderedMap Nat Nat := .empty
  deriving Inhabited

/-- The cache of a name.  One that was not set up is empty and keeps entries for the standard
time. -/
def World.cache {ε : Type} (w : World ε) (name : String) : StreamCache (LoadedStream ε) :=
  (w.caches.get? name).getD (.empty standardTtl)

/-- A call under way. -/
structure Visit (σ ε : Type) where
  /-- The world. -/
  world : World ε
  /-- The store that is called. -/
  site : Site σ ε
  /-- The caller's token. -/
  token : Token := {}
  /-- What goes wrong. -/
  mishaps : Mishaps := {}
  /-- The caller's decision. -/
  decide : Root σ ε → Except Error (Root σ ε) := .ok
  /-- The readings of streams so far. -/
  loads : Nat := 0
  /-- The commits so far. -/
  commits : Nat := 0
  /-- The versions on which a decision was asked for, the last one first. -/
  saw : List Nat := []

/-- The failure of a request that is told to fail. -/
def injected : Error := .storage "injected failure"

namespace Visit

variable {σ ε : Type}

/-- The visit with another storage. -/
def withDoubles (v : Visit σ ε) (d : Doubles) : Visit σ ε :=
  { v with world := { v.world with doubles := d } }

/-- Whether the caller has cancelled by now. -/
def isCancelled (v : Visit σ ε) : Bool := (v.token.passed v.world.now).fired

/-- The visit after the caller cancelled, if `cancels`. -/
def cancelIf (v : Visit σ ε) (cancels : Bool) : Visit σ ε :=
  if cancels then { v with token := v.token.fire } else v

/-- A reading of a stream through the counted storage. -/
def load (v : Visit σ ε) (key : StreamKey) (start : Nat) :
    Except Error (List CommittedEvent) × Visit σ ε :=
  let q : StorageRequest := .load key start
  let v := { v with loads := v.loads + 1 }
  -- a reading that fails on purpose has been counted, but has not reached the rival
  if v.mishaps.failLoad = some v.loads then
    (.error injected, v.withDoubles (v.world.doubles.count q))
  else
    let r := v.world.doubles.counted v.isCancelled q
    (r.1, (v.withDoubles r.2).cancelIf (v.mishaps.cancelOnLoad = some v.loads))

/-- A commit through the counted storage. -/
def commit (v : Visit σ ε) (key : StreamKey) (batchId : Uuid) (events : List PendingEvent) :
    Except Error (List CommittedEvent) × Visit σ ε :=
  let q : StorageRequest := .commit key batchId events
  let v := { v with commits := v.commits + 1 }
  let v := v.cancelIf (v.mishaps.cancelOnCommit = some v.commits)
  if v.mishaps.failCommit = some v.commits then
    (.error injected, v.withDoubles (v.world.doubles.count q))
  else
    let r := v.world.doubles.counted false q
    (r.1, v.withDoubles r.2)

/-- The answer of the storage in memory. -/
def direct (v : Visit σ ε) (q : StorageRequest) : q.Answer × Visit σ ε :=
  let r := v.world.doubles.direct v.isCancelled q
  (r.1, v.withDoubles r.2)

/-- The answer to a request about events. -/
def events (v : Visit σ ε) (q : StorageRequest) : q.Answer × Visit σ ε :=
  match v.site.backend, q with
  | .counted, .load key start => v.load key start
  | .counted, .commit key batchId events => v.commit key batchId events
  | .counted, q => v.direct q
  | .direct, q => v.direct q
  | .failing, q => (unavailable q, v)

/-- The answer to a request about snapshots. -/
def snapshots (v : Visit σ ε) (q : StorageRequest) : q.Answer × Visit σ ε :=
  if v.site.snapshotsFail then (unavailable q, v) else v.direct q

/-- The answer of the storage. -/
def storage (v : Visit σ ε) : (q : StorageRequest) → q.Answer × Visit σ ε
  | .loadSnapshot key =>
    match v.mishaps.snapshots with
    | some .loadCancelled => (.error .cancelled, v)
    | some .loadFails => (.error injected, v)
    | _ => v.snapshots (.loadSnapshot key)
  | .storeSnapshot s =>
    match v.mishaps.snapshots with
    | some .storeFails => (.error injected, v)
    | _ => v.snapshots (.storeSnapshot s)
  | q => v.events q

/-- The store's cache. -/
def cache (v : Visit σ ε) : StreamCache (LoadedStream ε) :=
  match v.site.cache with
  | some name => v.world.cache name
  | none => .empty .zero

/-- The visit with another content of the store's cache. -/
def withCache (v : Visit σ ε) (c : StreamCache (LoadedStream ε)) : Visit σ ε :=
  match v.site.cache with
  | some name => { v with world := { v.world with caches := v.world.caches.insert name c } }
  | none => v

/-- A reading of a stored state. -/
def readState (v : Visit σ ε) (state : Json) : Except String σ × Visit σ ε :=
  let count := (v.world.reads.get? v.site.number).getD 0 + 1
  let v := { v with world := { v.world with reads := v.world.reads.insert v.site.number count } }
  if v.site.failingRead = some count then (.error "scripted state read failure", v)
  else (v.site.store.codec.readState state, v)

/-- The next roll of the store; 0 when all are used up. -/
def roll (v : Visit σ ε) : Binary64 × Visit σ ε :=
  match (v.world.rolls.get? v.site.number).getD [] with
  | [] => (.zero false, v)
  | x :: rest =>
    let rolls := v.world.rolls.insert v.site.number rest
    (x, { v with world := { v.world with rolls := rolls } })

/-- A wait. -/
def pause (v : Visit σ ε) (d : Duration) : Bool × Visit σ ε :=
  let r := (v.token.passed v.world.now).pause v.world.now d
  (r.1, { v with token := r.2.1, world := { v.world with now := r.2.2 } })

/-- The answer to a request of the store. -/
def answer : (q : StoreRequest σ ε) → Visit σ ε → q.Answer × Visit σ ε
  | .storage q, v => v.storage q
  | .cached key, v =>
    let r := v.cache.get key v.world.clock
    (r.1, v.withCache r.2)
  | .generation key, v => (v.cache.generation key, v)
  | .keep key generation stream, v =>
    let r := v.cache.insert key generation stream v.world.clock
    (r.1, v.withCache r.2)
  | .invalidate key, v => ((), v.withCache (v.cache.invalidate key))
  | .readState state, v => v.readState state
  | .isCancelled, v => (v.isCancelled, v)
  | .pause d, v => v.pause d
  | .now, v => (v.site.frozenAt.getD v.world.clock, v)
  | .freshId, v =>
    let r := v.world.doubles.fresh
    (r.1, v.withDoubles r.2)
  | .roll, v => v.roll
  | .decide root, v => (v.decide root, { v with saw := root.version :: v.saw })

/-- Whether an answer is the events of a stream. -/
def isStream : (q : StoreRequest σ ε) → q.Answer → Bool
  | .storage (.load ..), r =>
    match r with
    | .ok _ => true
    | .error _ => false
  | _, _ => false

/-- A call run to its end. -/
def run {α : Type} (call : StoreCall σ ε α) (v : Visit σ ε) : Except Error α × Visit σ ε :=
  Call.runState (I := storeInterface σ ε) answer call v

/-- A call held after it has read a stream: what is left of it, and the visit. -/
def hold {α : Type} (call : StoreCall σ ε α) (v : Visit σ ε) : StoreCall σ ε α × Visit σ ε :=
  Call.runPast (I := storeInterface σ ε) answer isStream call v

end Visit

end EventLedger.Simulation
