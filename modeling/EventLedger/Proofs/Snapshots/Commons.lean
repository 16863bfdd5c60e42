import EventLedger.Proofs.Clients.World
import EventLedger.Proofs.Upkeep.Errands
import Mathlib.Data.List.Perm.Subperm

/-!
# What stores with snapshots share

Stores that share one storage may also share caches.  A cache hands out streams that were read some
time ago, and the snapshot that such a stream starts from may have been replaced meanwhile, but only
by a newer one: as long as nobody removes snapshots, the one on the shelf never falls back.

## Main definitions

* `SnapshotShelf.reflected`, `EventLog.lastNumber` — how far the snapshot of an aggregate reaches, and
  how far its events do.
* `Commons` — a storage with its diary, and caches.
* `Commons.Answers` — the answers to the requests of a call.
* `Commons.reply` — the answers in the simplest way.

## Main results

* `SnapshotShelf.reflected_store` — a snapshot that is brought is there, unless a newer one is.
* `EventLog.Coherent.length_load_le` — reading yields no more events than there are numbers.
* `Commons.Answers.cases` — **what the answer to a request changes.**
-/

namespace EventLedger

variable {σ ε : Type}

/-! ### How far snapshots and events reach -/

/-- The number of the last event that the snapshot of an aggregate reflects, 0 without a snapshot. -/
def SnapshotShelf.reflected (shelf : SnapshotShelf) (key : StreamKey) : Nat :=
  ((shelf.load key).map (·.sequence)).getD 0

namespace SnapshotShelf

theorem reflected_of_load {shelf : SnapshotShelf} {x : Snapshot} {key : StreamKey}
    (h : shelf.load key = some x) : shelf.reflected key = x.sequence := by
  rw [reflected, h]
  rfl

/-- **A snapshot that is brought is there, unless a newer one is.** -/
theorem reflected_store (shelf : SnapshotShelf) (x : Snapshot) (key : StreamKey) :
    (shelf.store x).reflected key =
      if x.key = key then max (shelf.reflected key) x.sequence else shelf.reflected key := by
  rw [reflected, reflected, load_store]
  split
  next =>
    cases shelf.load key with
    | none => exact (Nat.zero_max _).symm
    | some c =>
      simp only [Snapshot.newer]
      split
      next hlt => exact (Nat.max_eq_right (Nat.le_of_lt hlt)).symm
      next hle => exact (Nat.max_eq_left (Nat.le_of_not_lt hle)).symm
  next => rfl

end SnapshotShelf

namespace EventLog

/-- The number of the last event of a stream, 0 if it has none. -/
def lastNumber (l : EventLog) (key : StreamKey) : Nat :=
  ((l.stream key).values.getLast?.map (·.sequence)).getD 0

variable {l : EventLog} {key : StreamKey} {n : Nat}

theorem Reaches.le_lastNumber (h : l.Reaches key n) (hl : l.Coherent) : n ≤ l.lastNumber key := by
  obtain ⟨e, he, hle⟩ := h.exists_getLast? hl
  rw [lastNumber, he]
  exact hle

/-- A stream ends with one of its events. -/
theorem lastNumber_cases (l : EventLog) (key : StreamKey) :
    l.lastNumber key = 0 ∨ ∃ e ∈ (l.stream key).values, e.sequence = l.lastNumber key := by
  unfold lastNumber
  cases hlast : (l.stream key).values.getLast? with
  | none => exact .inl rfl
  | some e => exact .inr ⟨e, List.mem_of_getLast? hlast, rfl⟩

/-- **Reading yields no more events than there are numbers.** -/
theorem Coherent.length_load_le (h : l.Coherent) (key : StreamKey) (n : Nat) :
    (l.load key (n + 1)).length ≤ l.lastNumber key - n := by
  have hnodup : ((l.load key (n + 1)).map (·.sequence)).Nodup := by
    rw [List.Nodup, List.pairwise_map]
    exact (h.ascending_load key (n + 1)).imp Nat.ne_of_lt
  have hsubset : (l.load key (n + 1)).map (·.sequence) ⊆
      List.range' (n + 1) (l.lastNumber key - n) := by
    intro m hm
    obtain ⟨e, he, rfl⟩ := List.mem_map.1 hm
    obtain ⟨hall, hplace⟩ := List.mem_filter.1 ((h.load_perm key (n + 1)).mem_iff.1 he)
    obtain ⟨hkey, hlow⟩ := of_decide_eq_true hplace
    have hreach : l.Reaches key e.sequence := ⟨_, e, Nat.le_refl _, h.placed.2 ⟨hall, hkey, rfl⟩⟩
    have hhigh := hreach.le_lastNumber h
    rw [List.mem_range'_1]
    omega
  have hlength := (List.subperm_of_subset hnodup hsubset).length_le
  rwa [List.length_map, List.length_range'] at hlength

/-- The events of a batch reach up to its last one. -/
theorem sequence_le_of_mem_number {b : Uuid} {g : Nat} {ps : List PendingEvent}
    {e : CommittedEvent} (hv : validateBatch ps = .ok ()) (he : e ∈ number key b g ps) :
    e.sequence ≤ ((number key b g ps).getLast?.map (·.sequence)).getD 0 := by
  have hascending : (number key b g ps).Pairwise fun e e' => e.sequence < e'.sequence := by
    have hnumbers := (runsOn_of_validateBatch hv).pairwise_lt
    rwa [← map_sequence_number key b g ps, List.pairwise_map] at hnumbers
  have hne := List.ne_nil_of_mem he
  rw [List.getLast?_eq_some_getLast hne]
  exact (hascending.imp Nat.le_of_lt).rel_getLast_of_rel_getLast_getLast he (Nat.le_refl _)

/-- What is stored after a commit was there before, or it is of the batch that was accepted. -/
theorem Coherent.mem_all_commit (h : l.Coherent) {b : Uuid} {ps : List PendingEvent}
    {e : CommittedEvent} (he : e ∈ (l.commit key b ps).2.all) : e ∈ l.all ∨
      ∃ stored, (l.commit key b ps).1 = .ok stored ∧ e.key = key ∧
        e.sequence ≤ (stored.getLast?.map (·.sequence)).getD 0 := by
  rcases l.commit_cases key b ps with
    ⟨_, -, hc⟩ | ⟨hv, -, hc⟩ | ⟨-, -, _, -, hc⟩ | ⟨-, -, _, -, hc⟩ <;> rw [hc] at he ⊢
  · exact .inl he
  · rw [h.all_append, List.mem_append] at he
    exact he.imp_right fun hnew =>
      ⟨_, rfl, key_of_mem_number hnew, sequence_le_of_mem_number hv hnew⟩
  · exact .inl he
  · exact .inl he

end EventLog

/-! ### What a request does to the storage -/

namespace Depot

variable {w : Depot} {i : Nat} {p : StorageRequest}

/-- Unless snapshots are removed, the shelf only changes by one that is brought. -/
theorem shelf_serve (hp : ∀ key, p ≠ .deleteSnapshots key) :
    (w.serve i p).2.storage.shelf = w.storage.shelf ∨
      ∃ x, p = .storeSnapshot x ∧ (w.serve i p).2.storage.shelf = w.storage.shelf.store x := by
  unfold serve
  rcases w.storage.answer_cases (w.fired i) p with hanswer | hanswer <;> rw [hanswer]
  · exact .inl rfl
  · cases p with
    | storeSnapshot x => exact .inr ⟨x, rfl, rfl⟩
    | deleteSnapshots key => exact absurd rfl (hp key)
    | _ => exact .inl rfl

/-- A snapshot that is found is on the shelf. -/
theorem load_of_serve {w' : Depot} {key : StreamKey} {x : Snapshot}
    (h : w.serve i (.loadSnapshot key) = (.ok (some x), w')) :
    w'.storage.shelf.load key = some x := by
  unfold serve at h
  rcases w.storage.answer_cases (w.fired i) (.loadSnapshot key) with hanswer | hanswer <;>
    rw [hanswer] at h <;> obtain ⟨hfound, rfl⟩ := Prod.mk.inj h
  · cases hfound
  · exact Except.ok.inj hfound

/-- A snapshot that is brought is put on the shelf, even if the client has cancelled. -/
theorem shelf_storeSnapshot (x : Snapshot) :
    (w.serve i (.storeSnapshot x)).2.storage.shelf = w.storage.shelf.store x := by
  simp [serve, MemoryStorage.answer, StorageRequest.heedsCancel, MemoryStorage.serve]

/-- Unless snapshots are removed, none falls back. -/
theorem reflected_le_serve (hp : ∀ key, p ≠ .deleteSnapshots key) (key : StreamKey) :
    w.storage.shelf.reflected key ≤ (w.serve i p).2.storage.shelf.reflected key := by
  rcases shelf_serve (w := w) (i := i) hp with hsame | ⟨x, -, hstore⟩
  · rw [hsame]
  · rw [hstore, SnapshotShelf.reflected_store]
    split
    · exact Nat.le_max_left _ _
    · exact Nat.le_refl _

/-- What is put down as committed was committed before, or it is the batch of the request. -/
theorem mem_commit_of_serve {j : Nat} {key : StreamKey} {n : Nat}
    (h : (j, .commit key n) ∈ (w.serve i p).2.deeds) :
    (j, .commit key n) ∈ w.deeds ∨ j = i ∧ ∃ b ps, p = .commit key b ps := by
  refine (List.mem_append.1 h).symm.imp_right fun hnew => ?_
  obtain ⟨d, hd, heq⟩ := Option.map_eq_some_iff.1 (Option.mem_toList.1 hnew)
  obtain ⟨rfl, rfl⟩ := Prod.mk.inj heq
  exact ⟨rfl, Deed.exists_commit_of_of? hd⟩

/-- An event that comes to be stored is of a batch that is put down in the diary. -/
theorem mem_all_serve (h : w.storage.events.Coherent) {e : CommittedEvent}
    (he : e ∈ (w.serve i p).2.storage.events.all) : e ∈ w.storage.events.all ∨
      ∃ n, (i, .commit e.key n) ∈ (w.serve i p).2.deeds ∧ e.sequence ≤ n := by
  unfold serve at he ⊢
  rcases w.storage.answer_cases (w.fired i) p with hanswer | hanswer <;> rw [hanswer] at he ⊢
  · exact .inl he
  · cases p with
    | commit key b ps =>
      rcases h.mem_all_commit he with hold | ⟨stored, hstored, rfl, hle⟩
      · exact .inl hold
      · refine .inr ⟨_, ?_, hle⟩
        simp only [MemoryStorage.serve, hstored]
        exact List.mem_cons_self
    | delete key =>
      change e ∈ (w.storage.events.delete key).2.all at he
      rw [h.all_delete] at he
      exact .inl (List.mem_filter.1 he).1
    | _ => exact .inl he

end Depot

/-! ### The storage and the caches -/

/-- Whether a storage may fail on a request for reasons of its own.  Snapshots are always taken in.
-/
def StorageRequest.mayFail : StorageRequest → Bool
  | storeSnapshot .. => false
  | _ => true

/-- A storage with its diary, and the caches of the stores that use it. -/
structure Commons (ε : Type) where
  /-- The storage. -/
  depot : Depot
  /-- The caches. -/
  caches : Nat → StreamCache (LoadedStream ε)

namespace Commons

/-- Nothing is stored, and nothing is cached. -/
def start (ttl : Nat → Duration) : Commons ε := ⟨.start .empty, fun k => .empty (ttl k)⟩

/-- Another cache under a number. -/
def withCache (w : Commons ε) (k : Nat) (cache : StreamCache (LoadedStream ε)) : Commons ε :=
  { w with caches := Function.update w.caches k cache }

/-- How far the snapshot of an aggregate reaches. -/
def reflected (w : Commons ε) (key : StreamKey) : Nat := w.depot.storage.shelf.reflected key

/-- How far the events of an aggregate reach. -/
def last (w : Commons ε) (key : StreamKey) : Nat := w.depot.storage.events.lastNumber key

/-- The answers to a request of a call.  A storage that fails has changed nothing. -/
def Answers (c : Caller σ ε) (w : Commons ε) :
    (q : StoreRequest σ ε) → q.Answer → Commons ε → Prop
  | .storage q, a, w' =>
    (w.depot.serve c.number q = (a, w'.depot) ∧ w'.caches = w.caches) ∨
      (q.mayFail = true ∧ (∃ e, a = .error e) ∧ w' = w)
  | .cached key, a, w' =>
    ∃ now, let r := (w.caches c.cache).get key now
      a = r.1 ∧ w' = w.withCache c.cache r.2
  | .generation key, a, w' => a = (w.caches c.cache).generation key ∧ w' = w
  | .keep key generation stream, a, w' =>
    ∃ now, let r := (w.caches c.cache).insert key generation stream now
      a = r.1 ∧ w' = w.withCache c.cache r.2
  | .invalidate key, _, w' => w' = w.withCache c.cache ((w.caches c.cache).invalidate key)
  | .decide root, a, w' => c.mayDecide root a ∧ w' = w
  | .readState state, a, w' => a = c.store.codec.readState state ∧ w' = w
  | .isCancelled, a, w' => a = w.depot.fired c.number ∧ w' = w
  | .pause _, a, w' => (a = true → w.depot.fired c.number = true) ∧ w' = w
  | .now, _, w' => w' = w
  | .freshId, _, w' => w' = w
  | .roll, _, w' => w' = w

/-- The answer to a request in the simplest way: time stands still, and identifiers are counted. -/
def reply (c : Caller σ ε) (decide : Root σ ε → Except Error (Root σ ε)) :
    (q : StoreRequest σ ε) → Commons ε → q.Answer × Commons ε
  | .cached key, w =>
    let r := (w.caches c.cache).get key ⟨0, 0⟩
    (r.1, w.withCache c.cache r.2)
  | .generation key, w => ((w.caches c.cache).generation key, w)
  | .keep key generation stream, w =>
    let r := (w.caches c.cache).insert key generation stream ⟨0, 0⟩
    (r.1, w.withCache c.cache r.2)
  | .invalidate key, w => ((), w.withCache c.cache ((w.caches c.cache).invalidate key))
  | q, w =>
    let r := Depot.reply c.store decide c.number q w.depot
    (r.1, { w with depot := r.2 })

variable {w w' : Commons ε} {c : Caller σ ε}

/-- A call may be answered in the simplest way. -/
theorem answers_reply (w : Commons ε) {decide : Root σ ε → Except Error (Root σ ε)}
    (hdecide : ∀ root, c.mayDecide root (decide root)) (q : StoreRequest σ ε) :
    w.Answers c q (reply c decide q w).1 (reply c decide q w).2 := by
  cases q with
  | storage q => exact .inl ⟨rfl, rfl⟩
  | cached key => exact ⟨_, rfl, rfl⟩
  | keep key generation stream => exact ⟨_, rfl, rfl⟩
  | invalidate key => rfl
  | pause d => exact ⟨(by rintro ⟨⟩), rfl⟩
  | decide root => exact ⟨hdecide root, rfl⟩
  | now => rfl
  | freshId => rfl
  | roll => rfl
  | _ => exact ⟨rfl, rfl⟩

/-- A commit that is refused is not put down in the diary. -/
theorem Answers.deeds_of_refused {key : StreamKey} {b : Uuid} {ps : List PendingEvent} {e : Error}
    (h : w.Answers c (.storage (.commit key b ps)) (.error e) w') :
    w'.depot.deeds = w.depot.deeds := by
  rcases h with ⟨hserve, -⟩ | ⟨-, -, rfl⟩
  · exact Depot.deeds_of_serve hserve
  · rfl

/-- A commit that is accepted is put down with the number of its last event. -/
theorem Answers.deeds_of_accepted {key : StreamKey} {b : Uuid} {ps : List PendingEvent}
    {stored : List CommittedEvent} (hw : w.depot.Inv)
    (h : w.Answers c (.storage (.commit key b ps)) (.ok stored) w') :
    ∃ last, stored.getLast? = some last ∧
      w'.depot.deeds = (c.number, .commit key last.sequence) :: w.depot.deeds := by
  rcases h with ⟨hserve, -⟩ | ⟨-, ⟨e, he⟩, -⟩
  · have hok := congrArg Prod.fst hserve
    rw [Depot.serve, MemoryStorage.answer_commit] at hok
    have hlast := List.getLast?_eq_some_getLast (hw.coherent.stored_ne_nil hok)
    have hdeeds : w'.depot.deeds = (c.number,
        .commit key ((stored.getLast?.map (·.sequence)).getD 0)) :: w.depot.deeds :=
      Depot.deeds_of_serve hserve
    rw [hlast] at hdeeds
    exact ⟨_, hlast, hdeeds⟩
  · cases he

/-- A snapshot that was brought is there, unless a newer one is. -/
theorem Answers.le_reflected {x : Snapshot} {a : StorageRequest.Answer (.storeSnapshot x)}
    (h : w.Answers c (.storage (.storeSnapshot x)) a w') : x.sequence ≤ w'.reflected x.key := by
  rcases h with ⟨hserve, -⟩ | ⟨hfail, -⟩
  · have hdepot : (w.depot.serve c.number (.storeSnapshot x)).2 = w'.depot :=
      congrArg Prod.snd hserve
    rw [reflected, ← hdepot, Depot.shelf_storeSnapshot, SnapshotShelf.reflected_store, if_pos rfl]
    exact Nat.le_max_right _ _
  · cases hfail

/-- What a cache holds after one of them was replaced. -/
theorem entry?_withCache {k k' : Nat} {cache : StreamCache (LoadedStream ε)} {key : StreamKey}
    {e : CacheEntry (LoadedStream ε)}
    (he : StreamCache.entry? ((w.withCache k cache).caches k') key = some e) :
    (k' = k ∧ cache.entry? key = some e) ∨ StreamCache.entry? (w.caches k') key = some e := by
  by_cases hk : k' = k
  · subst hk
    exact .inl ⟨rfl, by simpa [withCache] using he⟩
  · exact .inr (by simpa [withCache, Function.update_of_ne hk] using he)

/-- **What the answer to a request changes**: the storage, as it serves the request, or what a cache
holds, and then nothing new is cached but what was to be kept. -/
theorem Answers.cases {q : StoreRequest σ ε} {a : q.Answer} (h : w.Answers c q a w') :
    (∃ p, q = .storage p ∧ w'.depot = (w.depot.serve c.number p).2 ∧ w'.caches = w.caches) ∨
      (w'.depot = w.depot ∧ ∀ k key e, StreamCache.entry? (w'.caches k) key = some e →
        StreamCache.entry? (w.caches k) key = some e ∨ ∃ g, q = .keep key g e.stream) := by
  have hsame : w' = w → w'.depot = w.depot ∧ ∀ k key e,
      StreamCache.entry? (w'.caches k) key = some e →
        StreamCache.entry? (w.caches k) key = some e ∨ ∃ g, q = .keep key g e.stream := by
    rintro rfl
    exact ⟨rfl, fun k key e he => .inl he⟩
  have hcache : ∀ {cache : StreamCache (LoadedStream ε)}, w' = w.withCache c.cache cache →
      (∀ key e, cache.entry? key = some e →
        StreamCache.entry? (w.caches c.cache) key = some e ∨ ∃ g, q = .keep key g e.stream) →
      w'.depot = w.depot ∧ ∀ k key e, StreamCache.entry? (w'.caches k) key = some e →
        StreamCache.entry? (w.caches k) key = some e ∨ ∃ g, q = .keep key g e.stream := by
    rintro cache rfl hnew
    refine ⟨rfl, fun k key e he => ?_⟩
    rcases entry?_withCache he with ⟨rfl, hin⟩ | hold
    · exact hnew key e hin
    · exact .inl hold
  cases q with
  | storage p =>
    rcases h with ⟨hserve, hcaches⟩ | ⟨-, -, hw⟩
    · exact .inl ⟨p, rfl, (congrArg Prod.snd hserve).symm, hcaches⟩
    · exact .inr (hsame hw)
  | cached key =>
    obtain ⟨now, -, hw⟩ := h
    exact .inr (hcache hw fun key' e he => .inl (StreamCache.entry?_get he))
  | keep key generation stream =>
    obtain ⟨now, -, hw⟩ := h
    refine .inr (hcache hw fun key' e he => ?_)
    rcases StreamCache.entry?_insert he with ⟨rfl, -, rfl⟩ | hold
    · exact .inr ⟨generation, rfl⟩
    · exact .inl hold
  | invalidate key =>
    exact .inr (hcache h fun key' e he => .inl (StreamCache.entry?_invalidate he).2)
  | now => exact .inr (hsame h)
  | freshId => exact .inr (hsame h)
  | roll => exact .inr (hsame h)
  | _ => exact .inr (hsame h.2)

end Commons

end EventLedger
