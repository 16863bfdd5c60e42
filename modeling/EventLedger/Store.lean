import EventLedger.Codec
import EventLedger.Metadata.Provider
import EventLedger.Store.Surroundings
import EventLedger.StoreConfig
import EventLedger.Upgrade

/-!
# Stores of aggregates

A store loads an aggregate by replaying its events and changes it by committing further ones.
Nothing is locked: a change is committed at the sequence numbers right after those it was decided
on, and if another client has taken them, the whole cycle is run again.

## Main definitions

* `AggregateStore` — what a store needs to know of its kind of aggregate, and its options.
* `AggregateStore.load` — the current state of an aggregate.
* `AggregateStore.update` — a change of an aggregate, decided by the caller.
-/

namespace EventLedger

/-- A store of aggregates with states `σ` and events `ε`. -/
structure AggregateStore (σ ε : Type) where
  /-- The kind of aggregate. -/
  aggregate : Aggregate σ ε
  /-- The stored forms. -/
  codec : Codec σ ε
  /-- The upgraders of stored events. -/
  upgraders : UpgraderChain ε := {}
  /-- When to write snapshots, if the store uses them. -/
  snapshots : Option SnapshotStrategy := none
  /-- Whether the store uses a cache. -/
  caching : Bool := false
  /-- The sources of further metadata, in the order in which they are asked. -/
  providers : List MetadataProvider := []
  /-- The settings. -/
  config : StoreConfig := {}

namespace AggregateStore

variable {σ ε : Type}

/-- The store with other upgraders, bounded as the settings say. -/
def withUpgraders (s : AggregateStore σ ε) (chain : UpgraderChain ε) : AggregateStore σ ε :=
  { s with upgraders := chain.withMaxPasses s.config.maxUpgradePasses }

/-- The store with other settings. -/
def withConfig (s : AggregateStore σ ε) (config : StoreConfig) : AggregateStore σ ε :=
  { s with upgraders := s.upgraders.withMaxPasses config.maxUpgradePasses, config := config }

/-- The key of an aggregate's stream. -/
def keyOf (s : AggregateStore σ ε) (id : AggregateId) : StreamKey := ⟨s.aggregate.name, id⟩

/-! ### Loading -/

/-- A stored event in its current form. -/
def currentForm (s : AggregateStore σ ε) (id : AggregateId) (e : CommittedEvent) :
    Except Error (List ε) :=
  match s.codec.readEvent e.payload e.type with
  | .error reason => .error (.serialization id e.sequence e.type reason)
  | .ok decoded => s.upgraders.upgrade s.aggregate.typeOf decoded

/-- Stored events in their current form, up to the first that fails. -/
def currentForms (s : AggregateStore σ ε) (id : AggregateId) :
    List CommittedEvent → Except Error (List ε)
  | [] => .ok []
  | e :: rest => do
    let es ← s.currentForm id e
    let more ← currentForms s id rest
    pure (es ++ more)

/-- The newest snapshot, if there is one that can be read; only cancelling is a failure. -/
def usableSnapshot (key : StreamKey) : StoreCall σ ε (Option Snapshot) := do
  match ← StoreCall.tryStorage (.loadSnapshot key) with
  | .error .cancelled => Call.fail .cancelled
  | .error _ => pure none
  | .ok none => pure none
  | .ok (some snapshot) =>
    match ← StoreCall.readState snapshot.state with
    | .ok _ => pure (some snapshot)
    | .error _ => pure none

/-- The snapshot to start from, if the store uses snapshots. -/
def startingSnapshot (s : AggregateStore σ ε) (key : StreamKey) :
    StoreCall σ ε (Option Snapshot) := do
  match s.snapshots with
  | none => pure none
  | some _ =>
    StoreCall.checkLive
    usableSnapshot key

/-- Reads the stream of an aggregate from its newest usable snapshot on. -/
def readStream (s : AggregateStore σ ε) (id : AggregateId) : StoreCall σ ε (LoadedStream ε) := do
  let key := s.keyOf id
  let snapshot ← s.startingSnapshot key
  let start := (snapshot.map (·.sequence)).getD 0
  StoreCall.checkLive
  -- reading goes on right after the snapshot, whose number needs a successor
  if greatestSequence ≤ start then Call.fail .sequenceOverflow
  let committed ← StoreCall.storage (.load key (start + 1))
  let upgraded ← Call.ofExcept (s.currentForms id committed)
  pure ⟨snapshot, committed, upgraded, (committed.getLast?.map (·.sequence)).getD start⟩

/-- The state that a stream starts from. -/
def startingState (s : AggregateStore σ ε) (id : AggregateId) (stream : LoadedStream ε) :
    StoreCall σ ε σ := do
  match stream.snapshot with
  | none => pure s.aggregate.initial
  | some snapshot =>
    match ← StoreCall.readState snapshot.state with
    | .ok state => pure state
    | .error reason =>
      Call.fail (.serialization id snapshot.sequence ⟨"snapshot", 0⟩ reason)

/-- The aggregate that a stream describes. -/
def rebuild (s : AggregateStore σ ε) (id : AggregateId) (stream : LoadedStream ε) :
    StoreCall σ ε (Root σ ε) := do
  let start ← s.startingState id stream
  let state ← Call.ofExcept (s.aggregate.replay start stream.upgraded)
  pure ⟨id, state, stream.version, []⟩

/-- Reads an aggregate from storage; the stream is kept in the cache if the store uses one and the
key was not invalidated meanwhile. -/
def readRoot (s : AggregateStore σ ε) (id : AggregateId) :
    StoreCall σ ε (Root σ ε × LoadedStream ε) := do
  if s.caching then
    let generation ← StoreCall.generation (s.keyOf id)
    let stream ← s.readStream id
    let root ← s.rebuild id stream
    let _ ← StoreCall.keep (s.keyOf id) generation stream
    pure (root, stream)
  else
    let stream ← s.readStream id
    let root ← s.rebuild id stream
    pure (root, stream)

/-- The cached stream of an aggregate, if the store uses a cache. -/
def cachedStream (s : AggregateStore σ ε) (id : AggregateId) :
    StoreCall σ ε (Option (LoadedStream ε)) := do
  if s.caching then StoreCall.cached (s.keyOf id) else pure none

/-- An aggregate with the stream that it was rebuilt from. -/
def loadRoot (s : AggregateStore σ ε) (id : AggregateId) :
    StoreCall σ ε (Root σ ε × LoadedStream ε) := do
  match ← s.cachedStream id with
  | some stream =>
    let root ← s.rebuild id stream
    pure (root, stream)
  | none => s.readRoot id

/-- The current state and version of an aggregate. -/
def load (s : AggregateStore σ ε) (id : AggregateId) : StoreCall σ ε (Root σ ε) := do
  let r ← s.loadRoot id
  pure r.1

/-! ### The last batch -/

/-- How many trailing events the first reading of the last batch covers. -/
def firstWindow : Nat := 16

/-- Where a window of trailing events starts. -/
def windowStart (version window : Nat) : Nat := max (version - (window - 1)) 1

theorem window_lt_of_windowStart_ne_one {version window : Nat}
    (h : windowStart version window ≠ 1) : window < version := by
  unfold windowStart at h
  omega

/-- The last batch of a stream, read in windows that grow until one holds the event before it. -/
def lastBatch (key : StreamKey) (version window : Nat) : StoreCall σ ε (List CommittedEvent) := do
  StoreCall.checkLive
  let events ← StoreCall.storage (.load key (windowStart version window))
  let tail := trailingBatch events
  if h : windowStart version window = 1 ∨ tail.length < events.length ∨ window = 0 then pure tail
  else lastBatch key version (window * 4)
termination_by version - window
decreasing_by
  have h' : windowStart version window ≠ 1 := by omega
  have := window_lt_of_windowStart_ne_one h'
  omega

/-- Whether an event carries the given source. -/
def carries (source : String) (e : CommittedEvent) : Bool := e.metadata.sourceId == some source

/-- A batch, if its last event carries the given source. -/
def batchIfCarried (source : String) (batch : List CommittedEvent) : Option (List CommittedEvent) :=
  match batch.getLast? with
  | some e => if carries source e then some batch else none
  | none => none

/-- The events of the last batch if it carries the given source.  A batch that the loaded stream may
show only in part, because a snapshot hides its beginning, is read again from storage. -/
def batchOfSource (s : AggregateStore σ ε) (id : AggregateId) (stream : LoadedStream ε)
    (source : String) : StoreCall σ ε (Option (List CommittedEvent)) := do
  -- the last event alone tells that the batch has another source
  if stream.committed.getLast?.any fun e => !carries source e then pure none
  else
    let tail := trailingBatch stream.committed
    let complete := tail.length < stream.committed.length || stream.snapshot.isNone
    if !tail.isEmpty && complete then pure (batchIfCarried source tail)
    else if stream.version = 0 then pure none
    else
      -- the batch begins at or before the snapshot
      let batch ← lastBatch (s.keyOf id) stream.version firstWindow
      pure (batchIfCarried source batch)

/-! ### Updating -/

/-- The reserved metadata of an event. -/
def reservedMetadata (key : StreamKey) (sequence : Nat) (event : EventType) (timestamp : String)
    (batchId : Uuid) (source : Option String) : Metadata :=
  OrderedMap.ofList
    ([(Metadata.aggregateIdKey, key.id.value), (Metadata.aggregateNameKey, key.name),
      (Metadata.sequenceKey, toString sequence), (Metadata.eventNameKey, event.name),
      (Metadata.eventVersionKey, toString event.version), (Metadata.timestampKey, timestamp),
      (Metadata.batchIdKey, batchId.text)] ++
      (source.map fun s => (Metadata.sourceIdKey, s)).toList)

/-- The entries of all providers for one event, each provider with an identifier of its own. -/
def providedEntries (context : EventContext) :
    List MetadataProvider → StoreCall σ ε (List (String × String))
  | [] => pure []
  | p :: rest => do
    let fresh ← StoreCall.freshId
    let more ← providedEntries context rest
    pure (p.entries fresh context ++ more)

/-- One emitted event as it is committed. -/
def pendingEvent (s : AggregateStore σ ε) (key : StreamKey) (sequence : Nat) (timestamp : String)
    (batchId : Uuid) (source : Option String) (e : ε) : StoreCall σ ε PendingEvent := do
  let type := s.aggregate.typeOf e
  match s.codec.writeEvent e with
  | .error reason => Call.fail (.serialization key.id sequence type reason)
  | .ok payload =>
    let reserved := reservedMetadata key sequence type timestamp batchId source
    let entries ← providedEntries ⟨key, type, payload, reserved⟩ s.providers
    let metadata ← Call.ofExcept (reserved.mergeAll entries)
    pure ⟨sequence, type, payload, metadata⟩

/-- The emitted events as they are committed, with sequence numbers after `version`. -/
def pendingEvents (s : AggregateStore σ ε) (key : StreamKey) (timestamp : String) (batchId : Uuid)
    (source : Option String) : Nat → List ε → StoreCall σ ε (List PendingEvent)
  | _, [] => pure []
  | version, e :: rest => do
    if greatestSequence ≤ version then Call.fail .sequenceOverflow
    let first ← s.pendingEvent key (version + 1) timestamp batchId source e
    let more ← pendingEvents s key timestamp batchId source (version + 1) rest
    pure (first :: more)

/-- Drops the cached stream of an aggregate, if the store uses a cache. -/
def invalidate (s : AggregateStore σ ε) (id : AggregateId) : StoreCall σ ε Unit := do
  if s.caching then
    StoreCall.invalidate (s.keyOf id)

/-- Whether the strategy asks for a snapshot. -/
def snapshotDue (strategy : SnapshotStrategy) (version last : Nat) : StoreCall σ ε Bool := do
  if strategy.rolls version last then
    let roll ← StoreCall.roll
    pure (strategy.decides version last roll)
  else pure (strategy.decides version last (Binary64.zero false))

/-- The metadata of a snapshot. -/
def snapshotMetadata (key : StreamKey) (version : Nat) (timestamp : String) : Metadata :=
  OrderedMap.ofList
    [(Metadata.aggregateIdKey, key.id.value), (Metadata.aggregateNameKey, key.name),
      (Metadata.sequenceKey, toString version), (Metadata.timestampKey, timestamp)]

/-- Writes a snapshot if the store's strategy asks for one.  A failure to write it is passed over.
-/
def offerSnapshot (s : AggregateStore σ ε) (root : Root σ ε) (version last : Nat) :
    StoreCall σ ε Unit := do
  match s.snapshots with
  | none => pure ()
  | some strategy =>
    if ← snapshotDue strategy version last then
      match s.codec.writeState root.state with
      | .error _ => pure ()
      | .ok state =>
        let now ← StoreCall.now
        let key := s.keyOf root.id
        let _ ← StoreCall.tryStorage
          (.storeSnapshot ⟨key, version, state, snapshotMetadata key version now.text⟩)

/-- Commits the events that a decided root carries to the stream of an aggregate, and offers a
snapshot of the root. -/
def commitRoot (s : AggregateStore σ ε) (id : AggregateId) (source : Option String)
    (stream : LoadedStream ε) (root : Root σ ε) : StoreCall σ ε (List CommittedEvent) := do
  let key := s.keyOf id
  let batchId ← StoreCall.freshId
  let now ← StoreCall.now
  let events ← s.pendingEvents key now.text batchId source root.version root.uncommitted
  -- from here on the batch is stored even if the caller cancels
  StoreCall.checkLive
  let committed ← StoreCall.storage (.commit key batchId events)
  s.invalidate id
  let version := (committed.getLast?.map (·.sequence)).getD root.version
  s.offerSnapshot root version stream.snapshotVersion
  pure committed

/-- The last batch, if the update has a source and the batch carries it. -/
def redelivered (s : AggregateStore σ ε) (id : AggregateId) (stream : LoadedStream ε) :
    Option String → StoreCall σ ε (Option (List CommittedEvent))
  | none => pure none
  | some source => s.batchOfSource id stream source

/-- One attempt of an update: load, decide, commit. -/
def attempt (s : AggregateStore σ ε) (id : AggregateId) (source : Option String) :
    StoreCall σ ε (List CommittedEvent) := do
  let (root, stream) ← s.loadRoot id
  match ← s.redelivered id stream source with
  | some batch => pure batch
  | none =>
    let decision ← StoreCall.decide root
    let decided ← Call.ofExcept decision
    if decided.uncommitted.isEmpty then pure []
    else s.commitRoot id source stream decided

/-- Attempts of an update, of which `retries` may follow the next one; `done` retries were made. -/
def attempts (s : AggregateStore σ ε) (id : AggregateId) (source : Option String) :
    Nat → Nat → StoreCall σ ε (List CommittedEvent)
  | 0, _ => do
    match ← (s.attempt id source).outcome with
    | .ok committed => pure committed
    | .error e =>
      if e.isConflict then s.invalidate id
      Call.fail e
  | retries + 1, done => do
    match ← (s.attempt id source).outcome with
    | .ok committed => pure committed
    | .error e =>
      if e.isConflict then
        -- the next attempt must not start from the stream that led to the conflict
        s.invalidate id
        StoreCall.pause (s.config.backoff.backoff.delay (done + 1))
        attempts s id source retries (done + 1)
      else Call.fail e

/-- Changes an aggregate as the caller decides, and yields the committed events.  If the last batch
carries the source of the update, the update was made before and that batch is the result. -/
def update (s : AggregateStore σ ε) (id : AggregateId) (source : Option String) :
    StoreCall σ ε (List CommittedEvent) :=
  s.attempts id source s.config.maxConflictRetries 0

end AggregateStore

end EventLedger
