import EventLedger.Identity
import EventLedger.Time.Instant

/-!
# The cache of streams

Streams that were read from storage, kept for a while.  A reader takes the generation of its key
before it reads and hands it back with the stream; the cache refuses a stream whose key was
invalidated in the meantime, so what was read before a commit never replaces what was dropped by it.

## Main definitions

* `StreamCache` — the cache, over any type of streams.
* `StreamCache.get`, `generation`, `insert`, `invalidate`, `clear`, `size` — what is done with it.
-/

namespace EventLedger

/-- A cached stream and the time from which on it is no longer given out. -/
structure CacheEntry (σ : Type) where
  /-- The stream. -/
  stream : σ
  /-- The time at which it expires. -/
  expiresAt : Instant

/-- What the cache knows of a key. -/
structure CacheSlot (σ : Type) where
  /-- The cached stream, if there is one. -/
  entry : Option (CacheEntry σ)
  /-- The stamp of the key's last invalidation. -/
  invalidatedAt : Nat

/-- A cache of streams of type `σ`. -/
structure StreamCache (σ : Type) where
  /-- The slots. -/
  slots : OrderedMap StreamKey (CacheSlot σ)
  /-- The last stamp; every invalidation and every clearing takes the next one.  It counts without a
  bound, where an unsigned number of 64 bits would do for `2 ^ 64 - 1` of them. -/
  counter : Nat
  /-- The stamp of the last clearing, without a bound as the counter. -/
  clearedAt : Nat
  /-- How long a stream is given out. -/
  ttl : Duration

namespace StreamCache

variable {σ : Type}

/-- An empty cache. -/
def empty (ttl : Duration) : StreamCache σ := ⟨.empty, 0, 0, ttl⟩

/-- The cached stream of a key, expired or not. -/
def entry? (c : StreamCache σ) (key : StreamKey) : Option (CacheEntry σ) :=
  (c.slots.get? key).bind (·.entry)

/-- The stamp of the last invalidation or clearing that concerns a key. -/
def generation (c : StreamCache σ) (key : StreamKey) : Nat :=
  max (((c.slots.get? key).map (·.invalidatedAt)).getD 0) c.clearedAt

/-- The stream of a key, unless it is missing or has expired; an expired one is dropped. -/
def get (c : StreamCache σ) (key : StreamKey) (now : Instant) : Option σ × StreamCache σ :=
  match c.slots.get? key with
  | some ⟨some entry, stamp⟩ =>
    if now.isBefore entry.expiresAt then (some entry.stream, c)
    else (none, { c with slots := c.slots.insert key ⟨none, stamp⟩ })
  | _ => (none, c)

/-- Keeps a stream under its key, unless the key's generation is no longer the given one. -/
def insert (c : StreamCache σ) (key : StreamKey) (generation : Nat) (stream : σ) (now : Instant) :
    Bool × StreamCache σ :=
  if c.generation key = generation then
    -- keeping a stream is no invalidation: the key keeps its stamp
    let stamp := ((c.slots.get? key).map (·.invalidatedAt)).getD generation
    (true, { c with slots := c.slots.insert key ⟨some ⟨stream, now.after c.ttl⟩, stamp⟩ })
  else (false, c)

/-- Drops the stream of a key. -/
def invalidate (c : StreamCache σ) (key : StreamKey) : StreamCache σ :=
  { c with
    slots := c.slots.insert key ⟨none, c.counter + 1⟩
    counter := c.counter + 1 }

/-- Drops every stream. -/
def clear (c : StreamCache σ) : StreamCache σ :=
  { c with slots := .empty, counter := c.counter + 1, clearedAt := c.counter + 1 }

/-- The number of streams, expired ones that were not asked for included. -/
def size (c : StreamCache σ) : Nat :=
  (c.slots.values.filter fun s => s.entry.isSome).length

end StreamCache

end EventLedger
