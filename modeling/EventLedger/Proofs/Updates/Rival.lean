import EventLedger.Proofs.Reading.AtRest
import EventLedger.Simulation.Doubles

/-!
# A rival writer

A batch that is numbered right after the last event of its stream finds its places free.  A rival
that commits the same events first takes these places, so that the batch is in conflict, while the
stream goes on with the rival's events.

## Main definitions

* `Continues es ps` — the batch is numbered right after the events of a stream.
* `Simulation.Doubles.Took d key ps d'` — one commit was asked for, and one batch of its events was
  stored.

## Main results

* `Continues.commit_eq`, `Continues.commit_after` — such a batch is committed, unless another one
  has taken its places.
* `Simulation.Doubles.commit_alone`, `Simulation.Doubles.commit_behind` — **a commit is in conflict
  if the rival comes before it, and one batch is stored either way.**
-/

namespace EventLedger

/-! ### Batches at the end of a stream -/

/-- The batch is numbered right after the events of a stream. -/
structure Continues (es : List CommittedEvent) (ps : List PendingEvent) : Prop where
  nonempty : ps ≠ []
  numbered : ps.map (·.sequence) = List.range' (lastNumber es + 1) ps.length
  room : lastNumber es + ps.length ≤ greatestSequence

namespace Continues

variable {key : StreamKey} {es : List CommittedEvent} {ps : List PendingEvent} {b b' : Uuid}
  {l : EventLog}

theorem runsOn (h : Continues es ps) : RunsOn (ps.map (·.sequence)) := by
  refine ⟨lastNumber es + 1, Nat.le_add_left 1 _, ?_, ?_⟩
  · simpa using h.nonempty
  · rw [List.length_map, h.numbered]

theorem lt_sequence (h : Continues es ps) {p : PendingEvent} (hp : p ∈ ps) :
    lastNumber es < p.sequence ∧ p.sequence ≤ greatestSequence := by
  have hmem := List.mem_map_of_mem (f := (·.sequence)) hp
  rw [h.numbered, List.mem_range'_1] at hmem
  have hroom := h.room
  omega

theorem validateBatch_eq (h : Continues es ps) : validateBatch ps = .ok () :=
  validateBatch_eq_ok_iff.2 ⟨h.runsOn, fun _ hp => (h.lt_sequence hp).2⟩

/-- The places after a stream are free. -/
theorem freeFor (h : Continues (l.stream key).values ps) (hl : l.Coherent)
    (hes : IsStream key (l.stream key).values) : l.FreeFor key ps := by
  intro p hp
  cases he : l.event? key p.sequence with
  | none => rfl
  | some e =>
    obtain ⟨hmem, hkey, hseq⟩ := hl.placed.1 he
    have hle := hes.sequence_le_lastNumber (hl.mem_stream.2 ⟨hmem, hkey⟩)
    have hlt := (h.lt_sequence hp).1
    omega

/-- **A batch that continues its stream is committed.** -/
theorem commit_eq (h : Continues (l.stream key).values ps) (hl : l.Coherent)
    (hes : IsStream key (l.stream key).values) (b : Uuid) :
    l.commit key b ps = (.ok (EventLog.number key b l.lastGlobal ps),
      l.append key (EventLog.number key b l.lastGlobal ps)) := by
  rcases l.commit_cases key b ps with
    ⟨e, hv, -⟩ | ⟨-, -, hc⟩ | ⟨-, hno, -⟩ | ⟨-, -, n, hn, -⟩
  · rw [h.validateBatch_eq] at hv
    cases hv
  · exact hc
  · exact absurd (h.freeFor hl hes) hno
  · exact absurd (h.freeFor hl hes) hn.not_freeFor

/-- **A batch whose places another one has taken is in conflict.** -/
theorem commit_after (h : Continues (l.stream key).values ps) (hl : l.Coherent) (hne : b ≠ b') :
    ∃ n, (l.append key (EventLog.number key b' l.lastGlobal ps)).commit key b ps =
      (.error (.concurrency key.name key.id n),
        l.append key (EventLog.number key b' l.lastGlobal ps)) := by
  have hstored : (l.append key (EventLog.number key b' l.lastGlobal ps)).StoredAs key b' ps _ :=
    (hl.extends_append h.runsOn).storedAs
  rcases (l.append key (EventLog.number key b' l.lastGlobal ps)).commit_cases key b ps with
    ⟨e, hv, -⟩ | ⟨-, hfree, -⟩ | ⟨-, -, again, hagain, -⟩ | ⟨-, -, n, -, hc⟩
  · rw [h.validateBatch_eq] at hv
    cases hv
  · exact absurd hfree (hstored.not_freeFor h.nonempty)
  · -- each place holds one event, which carries one identifier
    obtain ⟨p, hp⟩ := List.exists_mem_of_ne_nil ps h.nonempty
    have hn := List.mem_map_of_mem (f := (·.sequence)) hp
    obtain ⟨e, he, hb⟩ := hagain.exists_event hn
    obtain ⟨e', he', hb'⟩ := hstored.exists_event hn
    obtain rfl := Option.some.inj (he.symm.trans he')
    exact absurd (hb.symm.trans hb') hne
  · exact ⟨n, hc⟩

/-- The stream goes on with the events of the batch. -/
theorem values_append (h : Continues (l.stream key).values ps) (hl : l.Coherent)
    (hes : IsStream key (l.stream key).values) (b : Uuid) (g : Nat) :
    ((l.append key (EventLog.number key b g ps)).stream key).values =
      (l.stream key).values ++ EventLog.number key b g ps := by
  have hentries : ((l.append key (EventLog.number key b g ps)).stream key).entries =
      (l.stream key).entries ++ (EventLog.number key b g ps).map fun e => (e.sequence, e) := by
    rw [EventLog.stream_append, if_pos rfl]
    refine OrderedMap.entries_foldl_insert ?_ ?_
    · intro x hx e he
      rw [hl.keyed] at hx
      obtain ⟨e', he', rfl⟩ := List.mem_map.1 hx
      obtain ⟨p, hp, heq⟩ := EventLog.exists_of_mem_number he
      have hle := hes.sequence_le_lastNumber he'
      have hlt := (h.lt_sequence hp).1
      rw [Nat.compare_eq_lt, heq]
      exact Nat.lt_of_le_of_lt hle hlt
    · have hpairs := h.runsOn.pairwise_lt
      rw [← EventLog.map_sequence_number key b g, List.pairwise_map] at hpairs
      exact hpairs.imp Nat.compare_eq_lt.2
  rw [OrderedMap.values, hentries, List.map_append, List.map_map]
  exact congrArg _ (List.map_id' _)

/-- The longer stream is one as well, and ends with the last number of the batch. -/
theorem isStream_append (h : Continues es ps) (hes : IsStream key es) (b : Uuid) (g : Nat) :
    IsStream key (es ++ EventLog.number key b g ps) where
  keyed := List.forall_mem_append.2 ⟨hes.keyed, fun _ he => EventLog.key_of_mem_number he⟩
  ascending := by
    refine List.pairwise_append.2 ⟨hes.ascending, ?_, ?_⟩
    · have hpairs := h.runsOn.pairwise_lt
      rwa [← EventLog.map_sequence_number key b g, List.pairwise_map] at hpairs
    · intro e he e' he'
      obtain ⟨p, hp, heq⟩ := EventLog.exists_of_mem_number he'
      rw [heq]
      exact Nat.lt_of_le_of_lt (hes.sequence_le_lastNumber he) (h.lt_sequence hp).1
  numbered := by
    refine List.forall_mem_append.2 ⟨hes.numbered, fun e he => ?_⟩
    obtain ⟨p, hp, heq⟩ := EventLog.exists_of_mem_number he
    have hp := h.lt_sequence hp
    rw [heq]
    exact ⟨Nat.lt_of_le_of_lt (Nat.zero_le _) hp.1, hp.2⟩

theorem lastNumber_append (h : Continues es ps) (key : StreamKey) (b : Uuid) (g : Nat) :
    lastNumber (es ++ EventLog.number key b g ps) = lastNumber es + ps.length := by
  have hlength : (EventLog.number key b g ps).length = ps.length := EventLog.length_number ..
  have hpos := List.length_pos_iff.2 h.nonempty
  have hlast : ((EventLog.number key b g ps).getLast?.map (·.sequence)) =
      some (lastNumber es + ps.length) := by
    rw [← List.getLast?_map, EventLog.map_sequence_number, h.numbered, List.getLast?_range',
      if_neg (by omega)]
    congr 1
    omega
  obtain ⟨e, he, hseq⟩ := Option.map_eq_some_iff.1 hlast
  rw [lastNumber, List.getLast?_append, he]
  exact hseq

end Continues

/-! ### Commits behind the rival -/

namespace Simulation.Doubles

variable {d d' : Doubles} {key : StreamKey} {ps : List PendingEvent} {b : Uuid}

/-- The events of a stream. -/
def stored (d : Doubles) (key : StreamKey) : List CommittedEvent :=
  (d.memory.events.stream key).values

/-- From `d` to `d'` one commit was asked for, and one batch of its events was stored. -/
structure Took (d : Doubles) (key : StreamKey) (ps : List PendingEvent) (d' : Doubles) : Prop where
  attempts : d'.attempts = d.attempts + 1
  shelf : d'.memory.shelf = d.memory.shelf
  events : ∃ b, d'.memory.events =
    d.memory.events.append key (EventLog.number key b d.memory.events.lastGlobal ps)

/-- A request that is no commit passes the rival. -/
theorem behindRival_eq {q : StorageRequest} (hq : ∀ key b ps, q ≠ .commit key b ps) :
    d.behindRival false q =
      ((d.memory.serve q).1, { d with memory := (d.memory.serve q).2 }) := by
  cases q with
  | commit key b ps => exact absurd rfl (hq key b ps)
  | _ => rfl

/-- The storage's own answer to a commit. -/
theorem direct_commit {r : Except Error (List CommittedEvent)} {l : EventLog}
    (h : d.memory.events.commit key b ps = (r, l)) :
    d.direct false (.commit key b ps) = (r, { d with memory := ⟨l, d.memory.shelf⟩ }) :=
  congrArg (fun r => (r.1, { d with memory := r.2 })) (MemoryStorage.serve_commit h)

/-- A commit that the rival does not come before. -/
theorem commitBehindRival_of_eq (hc : d.conflicts = 0) :
    d.commitBehindRival key b ps =
      { d with attempts := d.attempts + 1 }.direct false (.commit key b ps) :=
  if_pos hc

/-- A commit that the rival comes before, without failing. -/
theorem commitBehindRival_of_ne {stored : List CommittedEvent} (hc : d.conflicts ≠ 0)
    (h : { d with
        attempts := d.attempts + 1, conflicts := d.conflicts - 1, drawn := d.drawn + 1 }.direct
      false (.commit key d.fresh.1 ps) = (.ok stored, d')) :
    d.commitBehindRival key b ps = d'.direct false (.commit key b ps) := by
  refine (if_neg hc).trans ?_
  simp only [fresh] at h
  dsimp only [fresh]
  simp only [h]
  rfl

/-- A commit without the rival is accepted. -/
theorem commit_alone (h : Continues (d.stored key) ps)
    (hl : d.memory.events.Coherent) (hes : IsStream key (d.stored key))
    (hc : d.conflicts = 0) (b : Uuid) :
    ∃ d', d.behindRival false (.commit key b ps) =
      (.ok (EventLog.number key b d.memory.events.lastGlobal ps), d') ∧ d.Took key ps d' :=
  ⟨_, (commitBehindRival_of_eq hc).trans (direct_commit (h.commit_eq hl hes b)), rfl, rfl, b, rfl⟩

/-- **A commit behind the rival is in conflict**, and the rival's batch is stored. -/
theorem commit_behind {n : Nat} (h : Continues (d.stored key) ps)
    (hl : d.memory.events.Coherent) (hes : IsStream key (d.stored key))
    (hc : d.conflicts = n + 1) (hne : b ≠ d.fresh.1) :
    ∃ m d', d.behindRival false (.commit key b ps) =
      (.error (.concurrency key.name key.id m), d') ∧ d.Took key ps d' ∧ d'.conflicts = n := by
  -- the rival's batch takes the places, so that the other one finds them taken
  obtain ⟨m, hm⟩ := h.commit_after hl hne
  have hrival := direct_commit (d := { d with
    attempts := d.attempts + 1, conflicts := d.conflicts - 1, drawn := d.drawn + 1 })
    (h.commit_eq hl hes d.fresh.1)
  exact ⟨m, _, (commitBehindRival_of_ne (by omega) hrival).trans (direct_commit hm),
    ⟨rfl, rfl, d.fresh.1, rfl⟩, Nat.sub_eq_of_eq_add hc⟩

end Simulation.Doubles

end EventLedger
