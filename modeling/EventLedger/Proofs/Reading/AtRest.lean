import EventLedger.Proofs.Call.Trace
import EventLedger.Proofs.MemoryStorage
import EventLedger.Proofs.Reading

/-!
# Storage at rest

As long as nobody writes, every reading of a stream shows the same events: all of them, or those
from a number on.  What a call reads is then known from its requests, whatever else it is answered.
A stream is a list of events in ascending order of their numbers; numbers may be missing.

## Main definitions

* `IsStream key es` — the list may be what a storage holds of a stream.
* `AtRest key es` — the exchanges with a storage in which the stream holds `es`.
* `LoadedStream.Covers l es` — the stream `l` was loaded from events `es`, with a snapshot or
  without.

## Main results

* `MemoryStorage.Reachable.isStream`, `MemoryStorage.Reachable.atRest_load` — a storage in memory
  holds such a list of each stream, and answers with it.
* `AggregateStore.covers_of_readStream` — **a stream that is read covers the stored events.**
-/

namespace EventLedger

variable {σ ε : Type} {key : StreamKey} {es : List CommittedEvent}

/-! ### Streams -/

/-- The list may be what a storage holds of a stream. -/
structure IsStream (key : StreamKey) (es : List CommittedEvent) : Prop where
  keyed : ∀ e ∈ es, e.key = key
  ascending : es.Pairwise fun e e' => e.sequence < e'.sequence
  numbered : ∀ e ∈ es, 1 ≤ e.sequence ∧ e.sequence ≤ greatestSequence

/-- The number of the last event, 0 if there is none. -/
def lastNumber (es : List CommittedEvent) : Nat := (es.getLast?.map (·.sequence)).getD 0

/-- The events before a number and those from it on. -/
theorem filter_lt_append_filter_le (h : es.Pairwise fun e e' => e.sequence < e'.sequence)
    (k : Nat) :
    es.filter (·.sequence < k) ++ es.filter (k ≤ ·.sequence) = es := by
  induction es with
  | nil => rfl
  | cons e es ih =>
    obtain ⟨hfirst, hrest⟩ := List.pairwise_cons.1 h
    by_cases he : e.sequence < k
    · rw [List.filter_cons_of_pos (by simpa using he),
        List.filter_cons_of_neg (by simpa using he), List.cons_append, ih hrest]
    · have hall : ∀ e' ∈ e :: es, k ≤ e'.sequence := by
        intro e' he'
        rcases List.mem_cons.1 he' with rfl | he'
        · omega
        · have := hfirst e' he'
          omega
      have hnone : ∀ e' ∈ e :: es, ¬decide (e'.sequence < k) = true := by
        intro e' he'
        simpa using hall e' he'
      rw [List.filter_eq_nil_iff.2 hnone, List.nil_append, List.filter_eq_self.2]
      intro e' he'
      simpa using hall e' he'

namespace IsStream

/-- From its first number on, a stream is read as a whole. -/
theorem filter_one_le (h : IsStream key es) : es.filter (1 ≤ ·.sequence) = es :=
  List.filter_eq_self.2 fun e he => by simpa using (h.numbered e he).1

theorem sequence_le_lastNumber (h : IsStream key es) {e : CommittedEvent} (he : e ∈ es) :
    e.sequence ≤ lastNumber es := by
  obtain ⟨before, last, rfl⟩ := (List.eq_nil_or_concat es).resolve_left (List.ne_nil_of_mem he)
  have hlast : lastNumber (before ++ [last]) = last.sequence := by simp [lastNumber]
  rw [List.concat_eq_append] at he h ⊢
  rw [hlast]
  rcases List.mem_append.1 he with he | he
  · have hlt := (List.pairwise_append.1 h.ascending).2.2 e he last (List.mem_singleton_self _)
    exact Nat.le_of_lt hlt
  · exact Nat.le_of_eq (congrArg _ (List.mem_singleton.1 he))

/-- Numbers begin at 1, so the last one is 0 only if there is no event. -/
theorem eq_nil_of_lastNumber (h : IsStream key es) (hzero : lastNumber es = 0) : es = [] := by
  refine List.eq_nil_iff_forall_not_mem.2 fun e he => ?_
  have hle := h.sequence_le_lastNumber he
  have hpos := (h.numbered e he).1
  omega

end IsStream

/-! ### What a storage at rest answers -/

/-- An exchange with a storage in which the stream holds `es`, by a call that is not cancelled and
finds no stream in the cache; everything else may be answered in any way. -/
def AtRest (key : StreamKey) (es : List CommittedEvent) : Exchange (storeInterface σ ε) → Prop
  | ⟨.storage (.load k start), a⟩ => k = key → a = .ok (es.filter (start ≤ ·.sequence))
  | ⟨.isCancelled, cancelled⟩ => cancelled = false
  | ⟨.cached _, found⟩ => found = none
  | _ => True

theorem yields_checkLive :
    Call.Yields (AtRest key es) (StoreCall.checkLive : StoreCall σ ε Unit) (.ok ()) := by
  refine Call.Yields.waiting ⟨false, rfl⟩ ?_
  rintro cancelled rfl
  exact .done ()

theorem yields_load (start : Nat) :
    Call.Yields (AtRest key es) (StoreCall.storage (.load key start) : StoreCall σ ε _)
      (.ok (es.filter (start ≤ ·.sequence))) := by
  refine Call.Yields.waiting ⟨.ok (es.filter (start ≤ ·.sequence)), fun _ => rfl⟩ ?_
  intro a ha
  rw [ha rfl]
  exact .done _

namespace MemoryStorage

variable {m : MemoryStorage}

/-- A request stores sequence numbers only. -/
theorem numbered_serve (hm : m.events.Coherent)
    (h : ∀ e ∈ m.events.all, 1 ≤ e.sequence ∧ e.sequence ≤ greatestSequence) (q : StorageRequest) :
    ∀ e ∈ (m.serve q).2.events.all, 1 ≤ e.sequence ∧ e.sequence ≤ greatestSequence := by
  cases q with
  | commit key b ps =>
    simp only [serve]
    rcases m.events.commit_cases key b ps with
      ⟨_, -, hc⟩ | ⟨hvalid, -, hc⟩ | ⟨-, -, stored, -, hc⟩ | ⟨-, -, n, -, hc⟩ <;> rw [hc]
    · exact h
    · intro e he
      rw [hm.all_append, List.mem_append] at he
      rcases he with he | he
      · exact h e he
      · obtain ⟨p, hp, heq⟩ := EventLog.exists_of_mem_number he
        obtain ⟨q, rest, rfl, hfirst, hnumbers⟩ := EventLog.numbered_of_validateBatch hvalid
        have hmem := List.mem_map_of_mem (f := (·.sequence)) hp
        rw [hnumbers, List.mem_range'_1] at hmem
        rw [heq]
        exact ⟨Nat.le_trans hfirst hmem.1, le_of_validateBatch hvalid p hp⟩
    · exact h
    · exact h
  | delete key =>
    intro e he
    simp only [serve] at he
    rw [hm.all_delete] at he
    exact h e (List.mem_filter.1 he).1
  | load key start => exact h
  | page start size => exact h
  | loadSnapshot key => exact h
  | storeSnapshot s => exact h
  | deleteSnapshots key => exact h

theorem numbered_run (hm : m.events.Coherent)
    (h : ∀ e ∈ m.events.all, 1 ≤ e.sequence ∧ e.sequence ≤ greatestSequence)
    (qs : List StorageRequest) :
    ∀ e ∈ (m.run qs).events.all, 1 ≤ e.sequence ∧ e.sequence ≤ greatestSequence := by
  induction qs generalizing m with
  | nil => exact h
  | cons q qs ih => exact ih (coherent_serve hm q) (numbered_serve hm h q)

/-- **A storage in memory holds streams.** -/
theorem Reachable.isStream (h : m.Reachable) (key : StreamKey) :
    IsStream key (m.events.stream key).values := by
  have hcoherent := h.coherent
  refine ⟨fun e he => (hcoherent.mem_stream.1 he).2, hcoherent.ascending_stream key, ?_⟩
  intro e he
  obtain ⟨qs, rfl⟩ := h
  refine numbered_run EventLog.coherent_empty ?_ qs e (hcoherent.mem_stream.1 he).1
  intro e he
  cases he

/-- **A storage in memory answers as one in which the stream holds its events.** -/
theorem Reachable.atRest_load (h : m.Reachable) (key key' : StreamKey) (start : Nat) :
    AtRest (σ := σ) (ε := ε) key (m.events.stream key).values
      ⟨.storage (.load key' start), (m.serve (.load key' start)).1⟩ := by
  rintro rfl
  exact congrArg Except.ok (EventLog.Coherent.atLeast_of_keyed (h.coherent.keyed key') start)

end MemoryStorage

/-! ### Streams that were loaded -/

/-- The stream was loaded from events `es`: all of them, or those after a snapshot. -/
structure LoadedStream.Covers (l : LoadedStream ε) (es : List CommittedEvent) : Prop where
  committed : l.committed = es.filter (l.snapshotVersion + 1 ≤ ·.sequence)
  version : l.version = (l.committed.getLast?.map (·.sequence)).getD l.snapshotVersion

namespace LoadedStream.Covers

variable {l : LoadedStream ε}

/-- The events up to the snapshot and those after it. -/
theorem append (h : l.Covers es) (hes : IsStream key es) :
    es.filter (·.sequence < l.snapshotVersion + 1) ++ l.committed = es := by
  rw [h.committed]
  exact filter_lt_append_filter_le hes.ascending _

/-- Without a snapshot the stream holds all events. -/
theorem committed_eq (h : l.Covers es) (hes : IsStream key es) (hnone : l.snapshot = none) :
    l.committed = es := by
  rw [h.committed, snapshotVersion, hnone]
  exact hes.filter_one_le

/-- The version is the number of the last event, which the snapshot does not exceed. -/
theorem version_eq (h : l.Covers es) (hes : IsStream key es)
    (hle : l.snapshotVersion ≤ lastNumber es) : l.version = lastNumber es := by
  have happend := h.append hes
  rw [h.version]
  cases hlast : l.committed.getLast? with
  | some e =>
    rw [← happend, lastNumber, List.getLast?_append, hlast]
    rfl
  | none =>
    -- no event follows the snapshot, which so is at the last one
    rw [List.getLast?_eq_none_iff.1 hlast, List.append_nil] at happend
    refine Nat.le_antisymm hle ?_
    unfold lastNumber
    cases hes' : es.getLast? with
    | none => exact Nat.zero_le _
    | some e =>
      have hmem := List.mem_of_getLast? hes'
      rw [← happend, List.mem_filter, decide_eq_true_eq] at hmem
      exact Nat.le_of_lt_succ hmem.2

end LoadedStream.Covers

namespace AggregateStore

variable {s : AggregateStore σ ε} {id : AggregateId}

/-- What is read from a snapshot on. -/
theorem yields_readFrom (s : AggregateStore σ ε) (id : AggregateId) (es : List CommittedEvent)
    (snapshot : Option Snapshot) :
    Call.Yields (AtRest (s.keyOf id) es) (s.readFrom id snapshot)
      (s.streamFrom id snapshot
        (es.filter ((snapshot.map (·.sequence)).getD 0 + 1 ≤ ·.sequence))) := by
  refine yields_checkLive.bind ?_
  split
  next hfull =>
    unfold streamFrom
    dsimp only
    rw [if_pos hfull]
    exact .failed _
  next => exact (yields_load _).bind (.ofExcept _)

/-- A stream without a snapshot holds all events. -/
theorem yields_readStream (hsnapshots : s.snapshots = none) (hes : IsStream (s.keyOf id) es) :
    Call.Yields (AtRest (s.keyOf id) es) (s.readStream id) (s.streamFrom id none es) := by
  have hstart : s.startingSnapshot (s.keyOf id) = .done none := by
    rw [startingSnapshot, hsnapshots]
    rfl
  have hyields := yields_readFrom s id es none
  rw [Option.map_none, Option.getD_none, Nat.zero_add, hes.filter_one_le] at hyields
  rw [readStream_eq, hstart]
  exact hyields

/-- **A stream that is read covers the stored events.** -/
theorem covers_of_readStream {t : List (Exchange (storeInterface σ ε))} {l : LoadedStream ε}
    (h : Call.Traces (s.readStream id) t (.ok l)) (hrest : ∀ x ∈ t, AtRest (s.keyOf id) es x) :
    l.Covers es := by
  rw [readStream_eq] at h
  rcases Call.traces_bind_iff.1 h with ⟨snapshot, t₁, t₂, rfl, -, hafter⟩ | ⟨e, -, he⟩
  case inr => cases he
  have heq := (yields_readFrom s id es snapshot).2 t₂ _ hafter (List.forall_mem_append.1 hrest).2
  obtain ⟨-, forms, -, rfl⟩ := streamFrom_eq_ok.1 heq.symm
  exact ⟨rfl, rfl⟩

end AggregateStore

end EventLedger
