import EventLedger.Simulation.Fresh
import EventLedger.Storage

/-!
# Storages for rehearsals

Storages that behave badly on purpose, or keep count of what reaches them.

## Main definitions

* `Doubles` — a storage in memory, a rival writer in front of it and a count of calls.
* `Doubles.behindRival`, `Doubles.counted` — requests that pass the rival, and requests that are
  counted and then pass the rival.
* `unavailable` — the answers of a storage that is down.
-/

namespace EventLedger.Simulation

/-- A storage in memory with a rival writer and a count of calls. -/
structure Doubles where
  /-- The storage. -/
  memory : MemoryStorage := {}
  /-- How many commits the rival will still come before. -/
  conflicts : Nat := 0
  /-- The commits that reached the rival. -/
  attempts : Nat := 0
  /-- The commits that were counted. -/
  commits : Nat := 0
  /-- The readings of streams that were counted. -/
  loads : Nat := 0
  /-- The stem of the identifiers that are given out. -/
  stem : Nat := 0xF0000000
  /-- The identifiers that were given out. -/
  drawn : Nat := 0
  deriving Inhabited

namespace Doubles

/-- An identifier that was never given out. -/
def fresh (d : Doubles) : Uuid × Doubles :=
  (freshId d.stem d.drawn, { d with drawn := d.drawn + 1 })

/-- The storage's own answer. -/
def direct (d : Doubles) (cancelled : Bool) (q : StorageRequest) : q.Answer × Doubles :=
  let r := d.memory.answer cancelled q
  (r.1, { d with memory := r.2 })

/-- A commit that the rival may come before, by committing the same events as a batch of its own.
If the rival fails, so does the commit. -/
def commitBehindRival (d : Doubles) (key : StreamKey) (batchId : Uuid)
    (events : List PendingEvent) :
    Except Error (List CommittedEvent) × Doubles :=
  let d := { d with attempts := d.attempts + 1 }
  if d.conflicts = 0 then d.direct false (.commit key batchId events)
  else
    -- the rival takes the places of the batch, so that the batch itself is in conflict
    let (foreign, d) := { d with conflicts := d.conflicts - 1 }.fresh
    let r := d.direct false (.commit key foreign events)
    match r.1 with
    | .error e => (.error e, r.2)
    | .ok _ => r.2.direct false (.commit key batchId events)

/-- The answer to a request that passes the rival. -/
def behindRival (d : Doubles) (cancelled : Bool) : (q : StorageRequest) → q.Answer × Doubles
  | .commit key batchId events => d.commitBehindRival key batchId events
  | q => d.direct cancelled q

/-- The count after a request. -/
def count (d : Doubles) : StorageRequest → Doubles
  | .commit .. => { d with commits := d.commits + 1 }
  | .load .. => { d with loads := d.loads + 1 }
  | _ => d

/-- The answer to a request that is counted and then passes the rival. -/
def counted (d : Doubles) (cancelled : Bool) (q : StorageRequest) : q.Answer × Doubles :=
  (d.count q).behindRival cancelled q

end Doubles

/-- The failure of a storage that is down. -/
def downtime : StorageRequest → Error
  | .loadSnapshot _ => .storage "snapshot store unavailable"
  | .storeSnapshot _ => .storage "snapshot store unavailable"
  | .deleteSnapshots _ => .storage "snapshot store unavailable"
  | _ => .storage "connection refused"

/-- The answer of a storage that is down. -/
def unavailable (q : StorageRequest) : q.Answer := .error (downtime q)

end EventLedger.Simulation
