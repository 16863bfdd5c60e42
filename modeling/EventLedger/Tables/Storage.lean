import EventLedger.Number.Unsigned
import EventLedger.Storage
import EventLedger.Tables.Retry
import EventLedger.Tables.Statement

/-!
# Storage in tables

The storage of events and snapshots kept in the tables of a database server.  A commit inserts its
batch in one transaction; the server's uniqueness of places in a stream finds conflicting writers,
and a batch whose places are taken is compared with the stored rows, so that a batch that was stored
already succeeds.

## Main definitions

* `TableStorage.tryCommit`, `TableStorage.resolveConflict` — one attempt to store a batch.
* `TableStorage.serve` — a storage request as a call that sends statements.
-/

namespace EventLedger

/-- A call that sends statements and is retried. -/
abbrev TableCall (α : Type) := RetryCall statementInterface α

namespace TableStorage

/-- The answer to a statement. -/
def send (q : Statement) : TableCall q.Answer := RetryCall.inner (I := statementInterface) q

/-- What a statement yields; its failure is the call's. -/
def run (q : Statement) : TableCall q.Result := do
  match ← send q with
  | .ok a => pure a
  | .error f => Call.fail (.database f)

/-- A result, or a failure of the ledger. -/
def ledger {α : Type} (r : Except Error α) : TableCall α := Call.ofExcept (r.mapError .ledger)

/-- Gives a transaction up because of a failure. -/
def giveUp {α : Type} (f : DatabaseFailure) : TableCall α := do
  let _ ← send .abandon
  Call.fail (.database f)

/-- What a statement inside a transaction yields; if it fails, the transaction is given up. -/
def runInside (q : Statement) : TableCall q.Result := do
  match ← send q with
  | .ok a => pure a
  | .error f => giveUp f

/-- The row for an event of a batch, if its numbers fit the columns. -/
def draft (key : StreamKey) (batchId : Uuid) (e : PendingEvent) : Except Error EventDraft :=
  if greatestLong < e.sequence then
    .error (.invalidBatch s!"sequence number {e.sequence} exceeds the BIGINT range")
  else if greatestInteger < e.type.version then
    .error (.invalidBatch s!"event version {e.type.version} exceeds the INTEGER range")
  else
    .ok
      { name := key.name
        id := key.id.value
        sequence := e.sequence
        event := e.type.name
        version := e.type.version
        payload := e.payload
        metadata := e.metadata.encode
        batchId := batchId }

/-- The stored forms of events whose rows got the given global numbers. -/
def committed (key : StreamKey) (batchId : Uuid) :
    List PendingEvent → List Int → Except Error (List CommittedEvent)
  | e :: es, g :: gs => do
    let globalSequence ← ofLong g "global_sequence_number"
    let rest ← committed key batchId es gs
    pure (e.commit key batchId globalSequence :: rest)
  | _, _ => .ok []

/-- Whether stored events are exactly those of a batch. -/
def isResubmission (batchId : Uuid) (events : List PendingEvent) (stored : List CommittedEvent) :
    Bool :=
  stored.length == events.length &&
    (events.zip stored).all fun p => p.1.isCommittedAs p.2 batchId

/-- What becomes of a batch whose places are taken: it is stored already, or in conflict. -/
def resolveConflict (key : StreamKey) (batchId : Uuid) (events : List PendingEvent) :
    TableCall (List CommittedEvent) := do
  let first := (events.head?.map (·.sequence)).getD 0
  let last := (events.getLast?.map (·.sequence)).getD 0
  let low ← ledger (toLong first "aggregate sequence number")
  let high ← ledger (toLong last "aggregate sequence number")
  let rows ← run (.selectRange key low high)
  let stored ← Call.ofExcept (rows.mapM EventRow.decode)
  if isResubmission batchId events stored then pure stored
  else
    Call.fail (.ledger (.concurrency key.name key.id
      ((stored.head?.map (·.sequence)).getD first)))

/-- The columns of a row that its insertion brings along; the server draws the global number. -/
def argumentsPerRow : Nat := 8

/-- What rows bring along may be counted in 16 bits. -/
def checkArguments (drafts : List EventDraft) : Except DatabaseFailure Unit :=
  let count := argumentsPerRow * drafts.length
  if greatestWord16 < count then .error (.tooManyArguments count) else .ok ()

/-- Closes a transaction in which rows were inserted. -/
def finish (key : StreamKey) (batchId : Uuid) (events : List PendingEvent) (globals : List Int) :
    TableCall (List CommittedEvent) := do
  runInside .commit
  -- the batch is stored by now, also if a number turns out not to be one of the ledger's
  ledger (committed key batchId events globals)

/-- One attempt to store a batch. -/
def tryCommit (key : StreamKey) (batchId : Uuid) (events : List PendingEvent)
    (drafts : List EventDraft) : TableCall (List CommittedEvent) := do
  run .begin
  runInside .lock
  if let .error f := checkArguments drafts then
    return ← giveUp f
  match ← send (.insertEvents drafts) with
  | .ok globals => finish key batchId events globals
  | .error f =>
    if f.isUniqueViolation then
      -- the stored rows are read outside the transaction, which has failed
      run .rollback
      resolveConflict key batchId events
    else giveUp f

/-- One attempt to read a stream. -/
def tryLoad (key : StreamKey) (start : Nat) : TableCall (List CommittedEvent) := do
  let low ← ledger (toLong start "aggregate sequence number")
  let rows ← run (.selectStream key low)
  Call.ofExcept (rows.mapM EventRow.decode)

/-- One attempt to read a page. -/
def tryPage (start size : Nat) : TableCall (List CommittedEvent) := do
  let low ← ledger (toLong start "global sequence number")
  let rows ← run (.selectGlobal low size)
  Call.ofExcept (rows.mapM EventRow.decode)

/-- One attempt to read a snapshot. -/
def tryLoadSnapshot (key : StreamKey) : TableCall (Option Snapshot) := do
  match ← run (.selectSnapshot key) with
  | none => pure none
  | some row => some <$> Call.ofExcept (row.decode key)

/-- One attempt to bring a snapshot. -/
def tryStoreSnapshot (s : Snapshot) : TableCall Unit := do
  let sequence ← ledger (toLong s.sequence "snapshot sequence number")
  run (.upsertSnapshot ⟨s.key.name, s.key.id.value, sequence, s.state, s.metadata.encode⟩)

/-- Storing a batch.  Once started it is carried through, whatever the caller's token does. -/
def commit (strategy : RetryStrategy) (key : StreamKey) (batchId : Uuid)
    (events : List PendingEvent) : TableCall (List CommittedEvent) := do
  ledger (validateBatch events)
  let drafts ← ledger (events.mapM (draft key batchId))
  retryTransient strategy false (tryCommit key batchId events drafts)

/-- Reading a page. -/
def page (strategy : RetryStrategy) (start size : Nat) : TableCall Page := do
  if size = 0 then
    Call.fail (.ledger (.invalidArgument "page size must be positive"))
  if greatestLong < size then
    Call.fail (.ledger (.invalidArgument s!"page size {size} is too large"))
  let events ← retryTransient strategy true (tryPage start size)
  pure ⟨events, (events.getLast?.map (·.globalSequence + 1)).getD start⟩

/-- A storage request as a call that sends statements. -/
def serve (strategy : RetryStrategy) : (q : StorageRequest) → TableCall q.Result
  | .commit key batchId events => commit strategy key batchId events
  | .load key start => retryTransient strategy true (tryLoad key start)
  | .page start size => page strategy start size
  | .delete key => retryTransient strategy true (run (.deleteEvents key))
  | .loadSnapshot key => retryTransient strategy true (tryLoadSnapshot key)
  | .storeSnapshot s => retryTransient strategy false (tryStoreSnapshot s)
  | .deleteSnapshots key => retryTransient strategy true (run (.deleteSnapshots key))

end TableStorage

end EventLedger
