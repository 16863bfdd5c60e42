import EventLedger.Proofs.MemoryStorage

/-!
# The books of the storage in memory

The storage keeps every event twice and one counter for all of them.  No request brings the three
out of step: an event is found in both places or in neither, under its own names, and a number that
the counter has passed is never given out again, whatever is deleted in between.

## Main definitions

* `EventLog.InStep l` — the streams and the list of all events hold the same events.
* `EventLog.Later l l'` — what `l'` holds was held by `l` or has a number that `l` had not reached.
* `EventLog.Adds l key b added l'` — `l'` is `l` with the events `added` of one batch.
* `EventLog.Removes l key l'` — `l'` is `l` without the events of a stream.
* `MemoryStorage.KeepsBooks m` — the books of `m` are right and stay right.

## Main results

* `EventLog.Coherent.inStep` — the two places of every event.
* `MemoryStorage.later_run` — a number is not given out twice in a run.
* `MemoryStorage.keepsBooks_of_reachable` — **every reachable storage keeps its books.**
-/

namespace EventLedger

namespace EventLog

/-- The streams and the list of all events hold the same events, each once and under its own names.
-/
structure InStep (l : EventLog) : Prop where
  /-- An event is kept in the stream of its key, under its sequence number, -/
  placed : ∀ key s n e, (key, s) ∈ l.streams.entries → (n, e) ∈ s.entries →
    e.key = key ∧ e.sequence = n
  /-- and among all events under its global number. -/
  numbered : ∀ g e, (g, e) ∈ l.log.entries → e.globalSequence = g
  /-- The streams together hold the events of the list, -/
  agree : (l.streams.values.flatMap OrderedMap.values).Perm l.log.values
  /-- in which no event occurs twice, -/
  once : l.log.values.Nodup
  /-- and no number, -/
  distinct : (l.log.values.map (·.globalSequence)).Nodup
  /-- and every number has been given out. -/
  drawn : ∀ e ∈ l.log.values, 1 ≤ e.globalSequence ∧ e.globalSequence ≤ l.lastGlobal

/-- What the log `l'` holds was held by `l` or has a number that `l` had not reached. -/
structure Later (l l' : EventLog) : Prop where
  counter : l.lastGlobal ≤ l'.lastGlobal
  fresh : ∀ e ∈ l'.all, e ∈ l.all ∨ l.lastGlobal < e.globalSequence

/-- The log `l'` is `l` with the events `added` of one batch. -/
structure Adds (l : EventLog) (key : StreamKey) (b : Uuid) (added : List CommittedEvent)
    (l' : EventLog) : Prop where
  /-- The events are put after all others -/
  all_eq : l'.all = l.all ++ added
  /-- under the numbers after the last one given out, -/
  globals : added.map (·.globalSequence) = List.range' (l.lastGlobal + 1) added.length
  counted : l'.lastGlobal = l.lastGlobal + added.length
  /-- in the order of their sequence numbers, which run on. -/
  sequences : ∃ first, added.map (·.sequence) = List.range' first added.length
  /-- They are events of the batch, in its stream; -/
  owned : ∀ e ∈ added, e.key = key ∧ e.batchId = b
  /-- the other streams are as they were. -/
  others : ∀ key', key ≠ key' → l'.stream key' = l.stream key'

/-- The log `l'` is `l` without the events of a stream. -/
structure Removes (l : EventLog) (key : StreamKey) (l' : EventLog) : Prop where
  streams_eq : l'.streams.entries = l.streams.entries.filter (·.1 ≠ key)
  log_eq : l'.log.entries = l.log.entries.filter (·.2.key ≠ key)
  counted : l'.lastGlobal = l.lastGlobal
  /-- The other streams are read as before. -/
  loads : ∀ key', key ≠ key' → ∀ start, l'.load key' start = l.load key' start

variable {l l' l'' : EventLog} {key : StreamKey} {b : Uuid}

/-! ### The two places of an event -/

namespace Coherent

variable (h : l.Coherent)

include h

omit h in
theorem stream_of_mem {s : Stream} (hs : (key, s) ∈ l.streams.entries) : l.stream key = s := by
  rw [stream, OrderedMap.mem_entries_iff.1 hs, Option.getD_some]

theorem mem_of_mem_entries {s : Stream} {e : CommittedEvent} (hs : (key, s) ∈ l.streams.entries) :
    e ∈ s.values ↔ e ∈ l.all ∧ e.key = key := by
  rw [← stream_of_mem hs, h.mem_stream]

/-- The streams together hold the events of the list. -/
theorem mem_flatMap {e : CommittedEvent} :
    e ∈ l.streams.values.flatMap OrderedMap.values ↔ e ∈ l.all := by
  rw [List.mem_flatMap]
  constructor
  · rintro ⟨s, hs, he⟩
    obtain ⟨⟨key, s⟩, hmem, rfl⟩ := List.mem_map.1 hs
    exact ((h.mem_of_mem_entries hmem).1 he).1
  · intro he
    have hplace : l.event? e.key e.sequence = some e := h.placed.2 ⟨he, rfl, rfl⟩
    -- an event has a place only in a stream that is kept
    cases hs : l.streams.get? e.key with
    | none =>
      rw [event?, stream, hs] at hplace
      cases hplace
    | some s =>
      have hmem := OrderedMap.mem_entries_iff.2 hs
      exact ⟨s, List.mem_map_of_mem hmem, (h.mem_of_mem_entries hmem).2 ⟨he, rfl⟩⟩

/-- No event is in two streams, or twice in one. -/
theorem nodup_flatMap : (l.streams.values.flatMap OrderedMap.values).Nodup := by
  rw [OrderedMap.values, List.flatMap_map, List.nodup_flatMap]
  constructor
  · rintro ⟨key, s⟩ hs
    rw [← stream_of_mem hs]
    exact (h.stream_perm key).nodup_iff.2 (h.nodup_all.filter _)
  · refine l.streams.ascending.imp_of_mem ?_
    rintro ⟨key, s⟩ ⟨key', s'⟩ hs hs' hlt e he he'
    obtain ⟨-, rfl⟩ := (h.mem_of_mem_entries hs).1 he
    obtain ⟨-, rfl⟩ := (h.mem_of_mem_entries hs').1 he'
    cases (Std.ReflCmp.compare_self : compare e.key e.key = .eq).symm.trans hlt

/-- **The two places of every event** of a coherent log. -/
theorem inStep : l.InStep where
  placed := by
    intro key s n e hs he
    refine (h.placed.1 ?_).2
    rw [event?, stream_of_mem hs]
    exact OrderedMap.mem_entries_iff.1 he
  numbered := by
    intro g e he
    rw [h.numbered] at he
    obtain ⟨e', -, heq⟩ := List.mem_map.1 he
    obtain ⟨rfl, rfl⟩ := Prod.mk.inj heq
    rfl
  agree := (List.perm_ext_iff_of_nodup h.nodup_flatMap h.nodup_all).2 fun _ => h.mem_flatMap
  once := h.nodup_all
  distinct := List.pairwise_map.2 (h.ascending.imp Nat.ne_of_lt)
  drawn := h.drawn

/-! ### What the requests do to the books -/

/-- A batch at free places adds its events. -/
theorem adds_append {ps : List PendingEvent} (hrun : RunsOn (ps.map (·.sequence))) :
    l.Adds key b (number key b l.lastGlobal ps) (l.append key (number key b l.lastGlobal ps)) where
  all_eq := h.all_append key b ps
  globals := by
    rw [length_number]
    exact map_globalSequence_number key b l.lastGlobal ps
  counted := rfl
  sequences := by
    obtain ⟨first, -, -, hseqs⟩ := hrun
    refine ⟨first, ?_⟩
    rw [List.length_map] at hseqs
    rw [map_sequence_number, length_number]
    exact hseqs
  owned := fun e he => ⟨key_of_mem_number he, (mem_number he).1⟩
  others := by
    intro key' hne
    rw [stream_append, if_neg hne]

/-- A commit adds its batch and returns what it added, or it changes nothing because the check or a
place that is taken stands against the batch. -/
theorem adds_commit (key : StreamKey) (b : Uuid) (ps : List PendingEvent) :
    (∃ added, l.Adds key b added (l.commit key b ps).2 ∧ added.length = ps.length ∧
      (l.commit key b ps).1 = .ok added) ∨
    ((validateBatch ps = .ok () → ¬l.FreeFor key ps) ∧ (l.commit key b ps).2 = l) := by
  rcases l.commit_cases key b ps with
    ⟨e, hv, hc⟩ | ⟨hv, -, hc⟩ | ⟨-, hno, _, -, hc⟩ | ⟨-, -, _, htaken, hc⟩ <;> rw [hc]
  · refine .inr ⟨?_, rfl⟩
    intro hok
    rw [hv] at hok
    cases hok
  · exact .inl ⟨_, h.adds_append (runsOn_of_validateBatch hv), length_number _ _ _ _, rfl⟩
  · exact .inr ⟨fun _ => hno, rfl⟩
  · exact .inr ⟨fun _ => htaken.not_freeFor, rfl⟩

/-- A deletion removes the events of its stream from both places. -/
theorem removes_delete (key : StreamKey) : l.Removes key (l.delete key).2 where
  streams_eq := by
    refine List.filter_congr fun x _ => ?_
    rw [Bool.eq_iff_iff, bne_iff_ne, decide_eq_true_eq, Ne, Std.LawfulEqOrd.compare_eq_iff_eq]
  log_eq := by
    rw [h.entries_delete, h.numbered, List.filter_map]
    rfl
  counted := rfl
  loads := by
    intro key' hne start
    rw [load, load, stream_delete, if_neg hne]

end Coherent

/-! ### Numbers are given out once -/

theorem Later.refl (l : EventLog) : l.Later l := ⟨Nat.le_refl _, fun _ he => .inl he⟩

theorem Later.trans (h : l.Later l') (h' : l'.Later l'') : l.Later l'' where
  counter := h.counter.trans h'.counter
  fresh := by
    intro e he
    rcases h'.fresh e he with he | hlt
    · exact h.fresh e he
    · exact .inr (h.counter.trans_lt hlt)

theorem Adds.later {added : List CommittedEvent} (h : l.Adds key b added l') : l.Later l' where
  counter := by
    rw [h.counted]
    exact Nat.le_add_right _ _
  fresh := by
    intro e he
    rw [h.all_eq, List.mem_append] at he
    refine he.imp_right fun he => ?_
    have hmem := List.mem_map_of_mem (f := (·.globalSequence)) he
    rw [h.globals, List.mem_range'_1] at hmem
    exact hmem.1

theorem Removes.later (h : l.Removes key l') : l.Later l' where
  counter := h.counted.ge
  fresh := by
    intro e he
    rw [all, OrderedMap.values, h.log_eq] at he
    obtain ⟨x, hx, rfl⟩ := List.mem_map.1 he
    exact .inl (List.mem_map_of_mem (List.mem_filter.1 hx).1)

/-- A number is not given to another event. -/
theorem Later.eq_of_globalSequence (h : l.Later l') (hl : l.Coherent) {e e' : CommittedEvent}
    (he : e ∈ l.all) (he' : e' ∈ l'.all) (heq : e.globalSequence = e'.globalSequence) : e = e' := by
  rcases h.fresh e' he' with hold | hlt
  · exact hl.eq_of_globalSequence he hold heq
  · have := (hl.drawn e he).2
    omega

end EventLog

namespace MemoryStorage

/-- The books of the storage are right and stay right. -/
structure KeepsBooks (m : MemoryStorage) : Prop where
  /-- The two places of every event agree. -/
  inStep : m.events.InStep
  /-- No request takes the counter back, and what is added later has a number that was not given out
  before. -/
  later : ∀ qs, m.events.Later (m.run qs).events
  /-- A number that was given to an event is never given to another one. -/
  assigned : ∀ qs, ∀ e ∈ m.events.all, ∀ e' ∈ (m.run qs).events.all,
    e.globalSequence = e'.globalSequence → e = e'
  /-- An event that was removed does not come back. -/
  gone : ∀ qs qs', ∀ e ∈ m.events.all, e ∉ (m.run qs).events.all →
    e ∉ ((m.run qs).run qs').events.all
  /-- A commit adds its batch and returns what it added, or it changes nothing because the check or
  a place that is taken stands against the batch. -/
  commits : ∀ key b ps,
    (∃ added, m.events.Adds key b added (m.serve (.commit key b ps)).2.events ∧
      added.length = ps.length ∧ (m.serve (.commit key b ps)).1 = .ok added) ∨
    ((validateBatch ps = .ok () → ¬m.events.FreeFor key ps) ∧
      (m.serve (.commit key b ps)).2 = m)
  /-- A deletion counts the events of its stream, which it removes. -/
  deletes : ∀ key,
    (m.serve (.delete key)).1 = .ok (m.events.all.filter (·.key = key)).length ∧
      m.events.Removes key (m.serve (.delete key)).2.events

variable {m : MemoryStorage}

theorem later_serve (h : m.events.Coherent) (q : StorageRequest) :
    m.events.Later (m.serve q).2.events := by
  cases q with
  | commit key b ps =>
    rcases h.adds_commit key b ps with ⟨added, hadds, -⟩ | ⟨-, hsame⟩
    · exact hadds.later
    · rw [serve, hsame]
      exact .refl _
  | delete key => exact (h.removes_delete key).later
  | load key start => exact .refl _
  | page start size => exact .refl _
  | loadSnapshot key => exact .refl _
  | storeSnapshot s => exact .refl _
  | deleteSnapshots key => exact .refl _

/-- **A number is not given out twice** in a run. -/
theorem later_run (h : m.events.Coherent) (qs : List StorageRequest) :
    m.events.Later (m.run qs).events := by
  induction qs generalizing m with
  | nil => exact .refl _
  | cons q qs ih => exact (later_serve h q).trans (ih (coherent_serve h q))

/-- **Every reachable storage keeps its books.** -/
theorem keepsBooks_of_reachable (hm : m.Reachable) : m.KeepsBooks := by
  have h := hm.coherent
  constructor
  case inStep => exact h.inStep
  case later => exact later_run h
  case assigned =>
    intro qs e he e' he' heq
    exact (later_run h qs).eq_of_globalSequence h he he' heq
  case gone =>
    intro qs qs' e he hgone hback
    -- what comes later was there, or has a number above that of `e`
    rcases (later_run (coherent_run h qs) qs').fresh e hback with hthere | hlt
    · exact hgone hthere
    · have hlow := (h.drawn e he).2
      have hcounter := (later_run h qs).counter
      omega
  case commits =>
    intro key b ps
    refine (h.adds_commit key b ps).imp_right fun hno => ⟨hno.1, ?_⟩
    rw [serve, hno.2]
  case deletes =>
    intro key
    refine ⟨?_, h.removes_delete key⟩
    rw [← h.fst_delete]
    rfl

/-- The identifier of the stream for examples, under another name. -/
def namesakeKey : StreamKey := ⟨"invoice", sampleKey.id⟩

/-- Two streams with one identifier: a batch in each, one of them brought again, one refused. -/
def namesakes : List StorageRequest :=
  [.commit sampleKey (.ofNat 1) (sampleBatch [1, 2]),
    .commit namesakeKey (.ofNat 2) (sampleBatch [1]),
    .commit sampleKey (.ofNat 1) (sampleBatch [1, 2]),
    .commit sampleKey (.ofNat 3) (sampleBatch [2]),
    .commit sampleKey (.ofNat 4) (sampleBatch [3])]

/-- A deletion leaves the stream with the same identifier under another name, and the numbers that
it removes are not given out again. -/
theorem books_of_namesakes :
    (run {} namesakes).Reachable ∧
      ((run {} namesakes).serve (.delete sampleKey)).1 = .ok (3 : Nat) ∧
      (((run {} namesakes).serve (.delete sampleKey)).2.events.load namesakeKey 1).map
        (·.globalSequence) = [3] ∧
      ∀ qs, ∀ e ∈ ((run {} (namesakes ++ [.delete sampleKey])).run qs).events.all,
        e.globalSequence = 3 ∨ 4 < e.globalSequence := by
  have hreach : (run {} namesakes).Reachable := ⟨_, rfl⟩
  obtain ⟨hcount, hremoves⟩ := (keepsBooks_of_reachable hreach).deletes sampleKey
  refine ⟨hreach, ?_, ?_, ?_⟩
  · have hthree : ((run {} namesakes).events.all.filter (·.key = sampleKey)).length = 3 := by
      decide +kernel
    rw [hcount, hthree]
  · rw [hremoves.loads namesakeKey (by decide)]
    decide +kernel
  · intro qs e he
    have hleft : (run {} (namesakes ++ [.delete sampleKey])).events.all.map
        (·.globalSequence) = [3] := by
      decide +kernel
    have hlast : (run {} (namesakes ++ [.delete sampleKey])).events.lastGlobal = 4 := by
      decide +kernel
    have hlater := (keepsBooks_of_reachable ⟨namesakes ++ [.delete sampleKey], rfl⟩).later qs
    rcases hlater.fresh e he with hold | hlt
    · refine .inl (List.mem_singleton.1 ?_)
      rw [← hleft]
      exact List.mem_map_of_mem hold
    · rw [hlast] at hlt
      exact .inr hlt

end MemoryStorage

end EventLedger
