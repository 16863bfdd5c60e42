import EventLedger.Batch

/-!
# The event log

Events held in memory: each stream by sequence number, and all events by global number.  A batch is
stored as a whole or not at all.

## Main definitions

* `EventLog` — the streams, the log and the last global number given out.
* `EventLog.commit` — storing a batch; a batch that is already stored yields its stored events.
* `EventLog.load`, `EventLog.page` — reading one stream, and reading all events page by page.
* `EventLog.delete` — removing a stream.
-/

namespace EventLedger

/-- The events of one stream by sequence number. -/
abbrev Stream := OrderedMap Nat CommittedEvent

/-- Events held in memory. -/
structure EventLog where
  /-- The streams. -/
  streams : OrderedMap StreamKey Stream
  /-- All events by global number. -/
  log : OrderedMap Nat CommittedEvent
  /-- The last global number that was given out. -/
  lastGlobal : Nat
  deriving Inhabited

/-- A page of a scan over all events. -/
structure Page where
  /-- The events in ascending order of their global numbers. -/
  events : List CommittedEvent
  /-- Where the next page starts: after the last event, or where this one started if it is empty. -/
  next : Nat

namespace EventLog

/-- A log without events. -/
def empty : EventLog := ⟨.empty, .empty, 0⟩

/-- The number of stored events. -/
def size (l : EventLog) : Nat := l.log.size

/-- The events of a stream. -/
def stream (l : EventLog) (key : StreamKey) : Stream := (l.streams.get? key).getD .empty

/-- The stored events that a batch was committed as, if all of it was. -/
def resubmitted? (s : Stream) (batchId : Uuid) (events : List PendingEvent) :
    Option (List CommittedEvent) :=
  events.mapM fun e => (s.get? e.sequence).filter fun c => e.isCommittedAs c batchId

/-- The sequence numbers of a batch that are taken. -/
def taken (s : Stream) (events : List PendingEvent) : List Nat :=
  (events.map (·.sequence)).filter s.contains

/-- The stored forms of the events of a batch, with global numbers after `last`. -/
def number (key : StreamKey) (batchId : Uuid) (last : Nat) : List PendingEvent → List CommittedEvent
  | [] => []
  | e :: rest => e.commit key batchId (last + 1) :: number key batchId (last + 1) rest

/-- The log with stored events put into their stream and into the order of all events. -/
def append (l : EventLog) (key : StreamKey) (events : List CommittedEvent) : EventLog :=
  { streams := l.streams.insert key
      (events.foldl (fun s e => s.insert e.sequence e) (l.stream key))
    log := events.foldl (fun m e => m.insert e.globalSequence e) l.log
    lastGlobal := l.lastGlobal + events.length }

/-- Stores a batch.  If some of its numbers are taken, it is either a batch that is stored already,
whose events are the answer, or in conflict, and the log stays as it is. -/
def commit (l : EventLog) (key : StreamKey) (batchId : Uuid) (events : List PendingEvent) :
    Except Error (List CommittedEvent) × EventLog :=
  match validateBatch events with
  | .error e => (.error e, l)
  | .ok () =>
    match taken (l.stream key) events with
    | first :: _ =>
      -- an overlap is harmless only if the whole batch is stored, in every place as it is
      match resubmitted? (l.stream key) batchId events with
      | some stored => (.ok stored, l)
      | none => (.error (.concurrency key.name key.id first), l)
    | [] =>
      let stored := number key batchId l.lastGlobal events
      (.ok stored, l.append key stored)

/-- The events of a stream from a sequence number on. -/
def load (l : EventLog) (key : StreamKey) (start : Nat) : List CommittedEvent :=
  (l.stream key).atLeast start

/-- Up to `size` events from a global number on. -/
def page (l : EventLog) (start size : Nat) : Except Error Page :=
  if size = 0 then .error (.invalidArgument "page size must be positive")
  else
    let events := (l.log.atLeast start).take size
    .ok ⟨events, (events.getLast?.map (·.globalSequence + 1)).getD start⟩

/-- The log without a stream, and how many events were removed. -/
def delete (l : EventLog) (key : StreamKey) : Nat × EventLog :=
  let gone := (l.stream key).values
  (gone.length,
    { l with
      streams := l.streams.erase key
      log := gone.foldl (fun m e => m.erase e.globalSequence) l.log })

end EventLog

end EventLedger
