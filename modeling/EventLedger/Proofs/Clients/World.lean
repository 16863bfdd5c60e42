import EventLedger.Proofs.Call.Discipline
import EventLedger.Proofs.Clients.Setting
import EventLedger.Proofs.Stream
import EventLedger.Proofs.StreamCache

/-!
# The world that clients share

Clients call stores of one setting: they load aggregates and change them, and all of them share one
log of events.  Some share caches, each by a number of its own.  Every request of a call is answered
at once, in some order of the requests of all calls, and the history records the answers.

A snapshot store may answer in more ways than the one held in memory: it may have lost its
snapshots, give out one that was brought before the newest, hold a state that cannot be read, or
fail.

## Main definitions

* `Caller`, `Caller.program` — a call of a client: loading, or changing with a decision of its own.
* `Note` — an answered request; a history lists the notes with the newest first.
* `History.commits`, `History.stored`, `History.issued`, `History.offered`, `History.conflicts` —
  what a history tells.
* `World`, `World.serves` — the world, and how it answers a request.

## Main results

* `World.mayLoad_of_shelf` — the snapshot store held in memory answers in one of these ways.
-/

namespace EventLedger

variable {σ ε : Type}

/-! ### Callers -/

/-- What a client wants of an aggregate. -/
inductive Task (σ ε : Type)
  /-- To load it. -/
  | load
  /-- To change it, by a decision that has one of its outcomes on each root that it is given. -/
  | update (source : Option String) (outcomes : Root σ ε → Except Error (Root σ ε) → Prop)

/-- What a call yields. -/
inductive Reply (σ ε : Type)
  /-- A loaded aggregate. -/
  | root (r : Root σ ε)
  /-- The committed events. -/
  | batch (events : List CommittedEvent)

/-- A call of a client. -/
structure Caller (σ ε : Type) where
  /-- The number of the call. -/
  number : Nat
  /-- The store that is called. -/
  store : AggregateStore σ ε
  /-- The number of the cache that the store uses, if it uses one. -/
  cache : Nat
  /-- The aggregate. -/
  id : AggregateId
  /-- What is wanted of it. -/
  task : Task σ ε

namespace Caller

/-- The stream of the aggregate. -/
def key (c : Caller σ ε) : StreamKey := c.store.keyOf c.id

/-- The source of the change, if there is one. -/
def source (c : Caller σ ε) : Option String :=
  match c.task with
  | .load => none
  | .update source _ => source

/-- The outcomes that the decision may have on a root. -/
def mayDecide (c : Caller σ ε) (root : Root σ ε) (outcome : Except Error (Root σ ε)) : Prop :=
  match c.task with
  | .load => False
  | .update _ outcomes => outcomes root outcome

/-- What the store does. -/
def program (c : Caller σ ε) : StoreCall σ ε (Reply σ ε) :=
  match c.task with
  | .load => (c.store.load c.id).bind fun root => .done (.root root)
  | .update source _ => (c.store.update c.id source).bind fun events => .done (.batch events)

end Caller

/-! ### Histories -/

/-- A request that was answered; the author is missing if it was no call of a store. -/
structure Note (σ ε : Type) where
  /-- The call that made the request. -/
  author : Option (Caller σ ε)
  /-- The request. -/
  request : StoreRequest σ ε
  /-- The answer. -/
  answer : request.Answer

/-- A commit that was accepted. -/
structure Commit (σ ε : Type) where
  /-- The call that made it. -/
  author : Option (Caller σ ε)
  /-- The stream. -/
  key : StreamKey
  /-- The batch. -/
  batchId : Uuid
  /-- The stored events. -/
  stored : List CommittedEvent

/-- The number of the last event of the batch. -/
def Commit.stop (h : Commit σ ε) : Nat := (h.stored.getLast?.map (·.sequence)).getD 0

namespace Note

/-- The number of the call that made the request. -/
def number (n : Note σ ε) : Option Nat := n.author.map (·.number)

/-- The commit, if the request was one that was accepted. -/
def commit? : Note σ ε → Option (Commit σ ε)
  | ⟨author, .storage (.commit key batchId _), .ok stored⟩ => some ⟨author, key, batchId, stored⟩
  | _ => none

/-- The identifier that was given out, with the call that asked for it. -/
def issued? : Note σ ε → Option (Nat × Uuid)
  | ⟨author, .freshId, fresh⟩ => author.map fun c => (c.number, fresh)
  | _ => none

/-- The snapshot that was brought. -/
def offered? : Note σ ε → Option Snapshot
  | ⟨_, .storage (.storeSnapshot s), _⟩ => some s
  | _ => none

theorem author_of_commit? {n : Note σ ε} {h : Commit σ ε} (hn : n.commit? = some h) :
    h.author = n.author := by
  unfold commit? at hn
  split at hn
  · obtain rfl := Option.some.inj hn
    rfl
  · cases hn

theorem issued?_of_commit? {n : Note σ ε} {h : Commit σ ε} (hn : n.commit? = some h) :
    n.issued? = none := by
  unfold commit? at hn
  split at hn
  · rfl
  · cases hn

theorem offered?_of_commit? {n : Note σ ε} {h : Commit σ ε} (hn : n.commit? = some h) :
    n.offered? = none := by
  unfold commit? at hn
  split at hn
  · rfl
  · cases hn

/-- Whether the answer was a conflict with another writer. -/
def isConflict : Note σ ε → Bool
  | ⟨_, .storage (.commit ..), .error e⟩ => e.isConflict
  | ⟨_, .decide _, .error e⟩ => e.isConflict
  | _ => false

/-- A commit that met a conflict was not accepted. -/
theorem commit?_of_isConflict {n : Note σ ε} (h : n.isConflict = true) : n.commit? = none := by
  unfold isConflict at h
  split at h
  · rfl
  · rfl
  · cases h

end Note

/-- The answered requests, the newest first. -/
abbrev History (σ ε : Type) := List (Note σ ε)

namespace History

/-- The accepted commits, the newest first. -/
def commits (t : History σ ε) : List (Commit σ ε) := t.filterMap Note.commit?

/-- The accepted commits to a stream, the newest first. -/
def commitsOn (key : StreamKey) (t : History σ ε) : List (Commit σ ε) :=
  (commits t).filter fun h => h.key = key

/-- The events that were stored in a stream, the oldest first. -/
def stored (key : StreamKey) (t : History σ ε) : List CommittedEvent :=
  (commitsOn key t).reverse.flatMap (·.stored)

/-- The identifiers that were given out, each with the call that asked for it. -/
def issued (t : History σ ε) : List (Nat × Uuid) := t.filterMap Note.issued?

/-- The snapshots that were brought. -/
def offered (t : History σ ε) : List Snapshot := t.filterMap Note.offered?

/-- How many conflicts a call has met. -/
def conflicts (number : Nat) (t : History σ ε) : Nat :=
  (t.filter fun n => n.number = some number && n.isConflict).length

variable {n : Note σ ε} {t t' : History σ ε} {key : StreamKey}

theorem commits_cons (n : Note σ ε) (t : History σ ε) :
    commits (n :: t) = n.commit?.toList ++ commits t := by
  unfold commits
  rw [List.filterMap_cons]
  cases n.commit? <;> rfl

theorem commitsOn_cons (n : Note σ ε) (t : History σ ε) :
    commitsOn key (n :: t) = (n.commit?.toList.filter fun h => h.key = key) ++ commitsOn key t := by
  unfold commitsOn
  rw [commits_cons, List.filter_append]

theorem stored_cons_of_none (h : n.commit? = none) : stored key (n :: t) = stored key t := by
  simp [stored, commitsOn_cons, h]

theorem stored_cons_of_some {h : Commit σ ε} (hn : n.commit? = some h) :
    stored key (n :: t) = stored key t ++ if h.key = key then h.stored else [] := by
  by_cases hk : h.key = key <;> simp [stored, commitsOn_cons, hn, hk]

theorem commitsOn_append (key : StreamKey) (t t' : History σ ε) :
    commitsOn key (t ++ t') = commitsOn key t ++ commitsOn key t' := by
  simp [commitsOn, commits]

theorem stored_append (key : StreamKey) (t t' : History σ ε) :
    stored key (t ++ t') = stored key t' ++ stored key t := by
  rw [stored, commitsOn_append, List.reverse_append, List.flatMap_append]
  rfl

theorem issued_cons (n : Note σ ε) (t : History σ ε) :
    issued (n :: t) = n.issued?.toList ++ issued t := by
  unfold issued
  rw [List.filterMap_cons]
  cases n.issued? <;> rfl

theorem offered_cons (n : Note σ ε) (t : History σ ε) :
    offered (n :: t) = n.offered?.toList ++ offered t := by
  unfold offered
  rw [List.filterMap_cons]
  cases n.offered? <;> rfl

theorem mem_commits_of_suffix (h : t <:+ t') : ∀ {x}, x ∈ commits t → x ∈ commits t' :=
  fun hx => (h.sublist.filterMap _).subset hx

theorem mem_issued_of_suffix (h : t <:+ t') : ∀ {x}, x ∈ issued t → x ∈ issued t' :=
  fun hx => (h.sublist.filterMap _).subset hx

/-- A moment after which something was noted is a new or an old one. -/
theorem mem_or_suffix {n : Note σ ε} {t old : History σ ε} : ∀ {new : History σ ε},
    n :: t <:+ new ++ old → n ∈ new ∨ n :: t <:+ old
  | [], h => .inr h
  | m :: new, h => by
    rcases List.suffix_cons_iff.1 h with heq | h
    · exact .inl ((List.cons.inj heq).1 ▸ List.mem_cons_self)
    · exact (mem_or_suffix h).imp (List.mem_cons_of_mem m) id

/-- A commit was noted at some moment. -/
theorem exists_note_of_mem_commits {h : Commit σ ε} (hh : h ∈ commits t) :
    ∃ n t', n :: t' <:+ t ∧ n.commit? = some h := by
  obtain ⟨n, hn, hcommit⟩ := List.mem_filterMap.1 hh
  obtain ⟨t₁, t₂, rfl⟩ := List.append_of_mem hn
  exact ⟨n, t₂, List.suffix_append t₁ _, hcommit⟩

end History

/-! ### Worlds -/

/-- The world that clients share. -/
structure World (σ ε : Type) where
  /-- The events. -/
  log : EventLog
  /-- The caches. -/
  caches : Nat → StreamCache (LoadedStream ε)
  /-- How many events a stream had when a cache last dropped its key. -/
  marks : Nat → StreamKey → Nat
  /-- Whether the client of a call has cancelled. -/
  fired : Nat → Bool
  /-- The answered requests. -/
  history : History σ ε

namespace World

/-- The events of a stream. -/
def events (w : World σ ε) (key : StreamKey) : List CommittedEvent := (w.log.stream key).values

/-- The world with another cache under a number. -/
def withCache (w : World σ ε) (i : Nat) (cache : StreamCache (LoadedStream ε)) : World σ ε :=
  { w with caches := Function.update w.caches i cache }

/-- The world with the current number of events noted for a cache and a key. -/
def marked (w : World σ ε) (i : Nat) (key : StreamKey) : World σ ε :=
  { w with
    marks := Function.update w.marks i (Function.update (w.marks i) key (w.events key).length) }

/-- The world with a batch put into its stream. -/
def appended (w : World σ ε) (key : StreamKey) (es : List CommittedEvent) : World σ ε :=
  { w with log := w.log.append key es }

/-- The world after a request was answered. -/
def noted (w : World σ ε) (n : Note σ ε) : World σ ε := { w with history := n :: w.history }

/-- An identifier that was never given out and that no stored event carries. -/
def Fresh (w : World σ ε) (b : Uuid) : Prop :=
  (∀ p ∈ History.issued w.history, p.2 ≠ b) ∧ ∀ key, ∀ e ∈ w.events key, e.batchId ≠ b

/-- The answers of a snapshot store: none, a snapshot that was brought, one that cannot be read, or
a failure, which is that of a cancelled client only if it has cancelled. -/
def mayLoad (c : Caller σ ε) (w : World σ ε) (key : StreamKey) :
    Except Error (Option Snapshot) → Prop
  | .ok none => True
  | .ok (some s) => (s.key = key ∧ s ∈ History.offered w.history) ∨
      ∃ reason, c.store.codec.readState s.state = .error reason
  | .error e => e = .cancelled → w.fired c.number = true

/-- **The snapshot store held in memory answers in one of these ways.** -/
theorem mayLoad_of_shelf {c : Caller σ ε} {w : World σ ε} {shelf : SnapshotShelf} {key : StreamKey}
    (hshelf : ∀ s, shelf.load key = some s → s.key = key ∧ s ∈ History.offered w.history) :
    w.mayLoad c key
      (MemoryStorage.answer ⟨w.log, shelf⟩ (w.fired c.number) (.loadSnapshot key)).1 := by
  unfold MemoryStorage.answer
  split
  next hfired => exact fun _ => by simpa [StorageRequest.heedsCancel] using hfired
  next =>
    simp only [MemoryStorage.serve]
    cases hload : shelf.load key with
    | none => trivial
    | some s => exact .inl (hshelf s hload)

/-- The answers to a request to the storage, each with the world after it. -/
def answersStorage (c : Caller σ ε) (w : World σ ε) :
    (q : StorageRequest) → q.Answer → World σ ε → Prop
  | .loadSnapshot key, a, w' => w.mayLoad c key a ∧ w' = w
  | .storeSnapshot _, _, w' => w' = w
  | q, a, w' =>
    let r := MemoryStorage.answer ⟨w.log, .empty⟩ (w.fired c.number) q
    a = r.1 ∧ w' = { w with log := r.2.events }

/-- Cancelling does not keep a commit from being carried through. -/
theorem answersStorage_commit {c : Caller σ ε} {w w' : World σ ε} {key : StreamKey} {b : Uuid}
    {ps : List PendingEvent} {a : Except Error (List CommittedEvent)} :
    w.answersStorage c (.commit key b ps) a w' ↔
      a = (w.log.commit key b ps).1 ∧ w' = { w with log := (w.log.commit key b ps).2 } := by
  unfold answersStorage MemoryStorage.answer
  simp only [StorageRequest.heedsCancel, Bool.and_false, Bool.false_eq_true, if_false]
  rfl

theorem answersStorage_load {c : Caller σ ε} {w w' : World σ ε} {key : StreamKey} {start : Nat}
    {a : Except Error (List CommittedEvent)} :
    w.answersStorage c (.load key start) a w' ↔
      a = (if w.fired c.number then .error .cancelled else .ok (w.log.load key start)) ∧
        w' = w := by
  unfold answersStorage MemoryStorage.answer
  simp only [StorageRequest.heedsCancel, Bool.and_true]
  split <;> rfl

/-- The answers to a request of a call, each with the world after it. -/
def answers (c : Caller σ ε) (w : World σ ε) : (q : StoreRequest σ ε) → q.Answer → World σ ε → Prop
  | .storage q, a, w' => w.answersStorage c q a w'
  | .cached key, a, w' =>
    ∃ now, let r := (w.caches c.cache).get key now
      a = r.1 ∧ w' = w.withCache c.cache r.2
  | .generation key, a, w' => a = (w.caches c.cache).generation key ∧ w' = w
  | .keep key generation stream, a, w' =>
    ∃ now, let r := (w.caches c.cache).insert key generation stream now
      a = r.1 ∧ w' = w.withCache c.cache r.2
  | .invalidate key, _, w' =>
    w' = (w.withCache c.cache ((w.caches c.cache).invalidate key)).marked c.cache key
  | .readState state, a, w' => a = c.store.codec.readState state ∧ w' = w
  | .isCancelled, a, w' => a = w.fired c.number ∧ w' = w
  | .pause _, a, w' => (a = true → w.fired c.number = true) ∧ w' = w
  | .now, _, w' => w' = w
  | .freshId, a, w' => w.Fresh a ∧ w' = w
  | .roll, _, w' => w' = w
  | .decide root, a, w' => c.mayDecide root a ∧ w' = w

/-- How the world answers a request and notes it. -/
def serves (c : Caller σ ε) (w : World σ ε) (q : StoreRequest σ ε) (a : q.Answer) (w' : World σ ε) :
    Prop :=
  ∃ w₁, w.answers c q a w₁ ∧ w' = w₁.noted ⟨some c, q, a⟩

end World

end EventLedger
