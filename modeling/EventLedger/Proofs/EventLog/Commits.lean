import EventLedger.Proofs.Batch
import EventLedger.Proofs.EventLog.Coherence

/-!
# Commits

A batch whose places are free is put there as a whole; a batch that is stored in every place as it
is brought is recognised, and every other overlap is a conflict at the first place that is taken.
The log is changed in the first case only, and only at the places of the batch.

## Main definitions

* `EventLog.FreeFor l key ps` — no place of the batch is taken.
* `EventLog.StoredAs l key b ps stored` — the places hold exactly that batch, as the events `stored`.
* `EventLog.FirstTaken l key ps n` — `n` is the least number of the batch whose place is taken.
* `EventLog.Extends l key b ps stored l'` — `l'` is `l` with the batch put at its places.
* `EventLog.Unused l b` — no event is stored under the identifier of the batch.

## Main results

* `EventLog.commit_cases` — **what a commit may come to.**
* `EventLog.Coherent.extends_append` — what putting a batch at free places does.
* `EventLog.StoredAs.mono` — a stored batch is stored as long as its places are held.
-/

namespace EventLedger.EventLog

/-- No place of the batch is taken. -/
def FreeFor (l : EventLog) (key : StreamKey) (ps : List PendingEvent) : Prop :=
  ∀ p ∈ ps, l.event? key p.sequence = none

/-- Each place of the batch holds its event, with the batch's identifier, the type and the payload;
these events are `stored`. -/
def StoredAs (l : EventLog) (key : StreamKey) (b : Uuid) (ps : List PendingEvent)
    (stored : List CommittedEvent) : Prop :=
  List.Forall₂ (fun p e => l.event? key p.sequence = some e ∧ p.isCommittedAs e b = true) ps stored

/-- The least number of the batch whose place is taken. -/
structure FirstTaken (l : EventLog) (key : StreamKey) (ps : List PendingEvent) (n : Nat) : Prop where
  mem : n ∈ ps.map (·.sequence)
  taken : l.event? key n ≠ none
  least : ∀ m ∈ ps.map (·.sequence), l.event? key m ≠ none → n ≤ m

/-- The log `l'` is `l` with the batch put at its places, as the events `stored`. -/
structure Extends (l : EventLog) (key : StreamKey) (b : Uuid) (ps : List PendingEvent)
    (stored : List CommittedEvent) (l' : EventLog) : Prop where
  /-- Each event is stored as it was brought, -/
  brought : List.Forall₂ (fun p e => e = p.commit key b e.globalSequence) ps stored
  /-- under the next global numbers, -/
  globals : stored.map (·.globalSequence) = List.range' (l.lastGlobal + 1) ps.length
  counted : l'.lastGlobal = l.lastGlobal + ps.length
  /-- after all events that there were, -/
  all_eq : l'.all = l.all ++ stored
  /-- and at its place; -/
  held : ∀ e ∈ stored, l'.event? key e.sequence = some e
  /-- all other places are as they were. -/
  kept : ∀ key' n, (key = key' → n ∉ ps.map (·.sequence)) → l'.event? key' n = l.event? key' n

/-- No event is stored under the identifier of the batch. -/
def Unused (l : EventLog) (b : Uuid) : Prop := ∀ e ∈ l.all, e.batchId ≠ b

variable {l l' : EventLog} {key : StreamKey} {b : Uuid} {ps : List PendingEvent}
  {stored : List CommittedEvent}

/-- A stored batch is stored as long as its places are held. -/
theorem StoredAs.mono (h : l.StoredAs key b ps stored)
    (hheld : ∀ n e, l.event? key n = some e → l'.event? key n = some e) :
    l'.StoredAs key b ps stored :=
  h.imp fun _ _ hpe => ⟨hheld _ _ hpe.1, hpe.2⟩

theorem StoredAs.exists_event (h : l.StoredAs key b ps stored) {n : Nat}
    (hn : n ∈ ps.map (·.sequence)) : ∃ e, l.event? key n = some e ∧ e.batchId = b := by
  induction h with
  | nil => cases hn
  | @cons p e ps stored hpe _ ih =>
    rw [List.map_cons, List.mem_cons] at hn
    rcases hn with rfl | hn
    · refine ⟨e, hpe.1, ?_⟩
      have hsame := hpe.2
      simp only [PendingEvent.isCommittedAs, Bool.and_eq_true, beq_iff_eq] at hsame
      exact hsame.1.1.1
    · exact ih hn

theorem isCommittedAs_commit (p : PendingEvent) (key : StreamKey) (b : Uuid) (g : Nat) :
    p.isCommittedAs (p.commit key b g) b = true := by
  simp [PendingEvent.isCommittedAs, PendingEvent.commit, Json.same_self]

theorem Extends.storedAs (h : l.Extends key b ps stored l') : l'.StoredAs key b ps stored := by
  obtain ⟨hbrought, -, -, -, hheld, -⟩ := h
  unfold StoredAs
  induction hbrought with
  | nil => exact .nil
  | @cons p e ps stored he hrest ih =>
    refine .cons ⟨?_, ?_⟩ (ih fun e' he' => hheld e' (List.mem_cons_of_mem e he'))
    · have hplace := hheld e List.mem_cons_self
      have hseq : e.sequence = p.sequence := by rw [he]; rfl
      rwa [hseq] at hplace
    · rw [he]
      exact isCommittedAs_commit p key b _

/-! ### What a commit comes to -/

/-- The events that a batch is recognised by are those that hold it. -/
theorem resubmitted?_eq_some_iff : resubmitted? (l.stream key) b ps = some stored ↔
    l.StoredAs key b ps stored := by
  unfold StoredAs resubmitted?
  induction ps generalizing stored with
  | nil =>
    rw [List.forall₂_nil_left_iff, List.mapM_nil]
    simp only [Option.pure_def, Option.some.injEq]
    exact eq_comm
  | cons p ps ih =>
    rw [List.forall₂_cons_left_iff, List.mapM_cons]
    simp only [Option.pure_def, Option.bind_eq_bind, Option.bind_eq_some_iff, ih,
      Option.filter_eq_some_iff, Option.some.injEq, event?]
    constructor
    · rintro ⟨e, he, rest, hrest, rfl⟩
      exact ⟨e, rest, he, hrest, rfl⟩
    · rintro ⟨e, rest, he, hrest, rfl⟩
      exact ⟨e, he, rest, hrest, rfl⟩

theorem contains_iff_event? {n : Nat} :
    (l.stream key).contains n = true ↔ l.event? key n ≠ none := by
  rw [OrderedMap.contains, Option.isSome_iff_ne_none]
  rfl

theorem taken_eq_nil_iff_freeFor : taken (l.stream key) ps = [] ↔ l.FreeFor key ps := by
  rw [taken, List.filter_eq_nil_iff, List.forall_mem_map]
  simp only [contains_iff_event?, ne_eq, not_not]
  rfl

/-- The numbers that are taken are listed in their order. -/
theorem firstTaken_of_taken {n : Nat} {rest : List Nat} (hrun : RunsOn (ps.map (·.sequence)))
    (h : taken (l.stream key) ps = n :: rest) : l.FirstTaken key ps n := by
  have hmem : ∀ {m}, m ∈ n :: rest ↔ m ∈ ps.map (·.sequence) ∧ l.event? key m ≠ none := by
    intro m
    rw [← h, taken, List.mem_filter, contains_iff_event?]
  have hsorted : (n :: rest).Pairwise (· < ·) := by
    rw [← h]
    exact hrun.pairwise_lt.filter _
  obtain ⟨hn, htaken⟩ := hmem.1 List.mem_cons_self
  refine ⟨hn, htaken, ?_⟩
  intro m hm hmtaken
  rcases List.mem_cons.1 (hmem.2 ⟨hm, hmtaken⟩) with rfl | hrest
  · exact Nat.le_refl m
  · exact Nat.le_of_lt (List.rel_of_pairwise_cons hsorted hrest)

theorem runsOn_of_validateBatch (h : validateBatch ps = .ok ()) :
    RunsOn (ps.map (·.sequence)) :=
  (validateBatch_eq_ok_iff.1 h).1

/-- **What a commit may come to**: the batch is refused by the check, it is put at free places, it is
stored already, or it is in conflict. -/
theorem commit_cases (l : EventLog) (key : StreamKey) (b : Uuid) (ps : List PendingEvent) :
    (∃ e, validateBatch ps = .error e ∧ l.commit key b ps = (.error e, l)) ∨
    (validateBatch ps = .ok () ∧ l.FreeFor key ps ∧
      l.commit key b ps = (.ok (number key b l.lastGlobal ps),
        l.append key (number key b l.lastGlobal ps))) ∨
    (validateBatch ps = .ok () ∧ ¬l.FreeFor key ps ∧
      ∃ stored, l.StoredAs key b ps stored ∧ l.commit key b ps = (.ok stored, l)) ∨
    (validateBatch ps = .ok () ∧ (∀ stored, ¬l.StoredAs key b ps stored) ∧
      ∃ n, l.FirstTaken key ps n ∧
        l.commit key b ps = (.error (.concurrency key.name key.id n), l)) := by
  unfold commit
  cases hv : validateBatch ps with
  | error e => exact .inl ⟨e, rfl, rfl⟩
  | ok u =>
    refine .inr ?_
    cases ht : taken (l.stream key) ps with
    | nil => exact .inl ⟨rfl, taken_eq_nil_iff_freeFor.1 ht, rfl⟩
    | cons n rest =>
      refine .inr ?_
      cases hr : resubmitted? (l.stream key) b ps with
      | some stored =>
        refine .inl ⟨rfl, ?_, stored, resubmitted?_eq_some_iff.1 hr, rfl⟩
        intro hfree
        rw [taken_eq_nil_iff_freeFor.2 hfree] at ht
        cases ht
      | none =>
        refine .inr ⟨rfl, ?_, n, firstTaken_of_taken (runsOn_of_validateBatch hv) ht, rfl⟩
        intro stored hstored
        rw [resubmitted?_eq_some_iff.2 hstored] at hr
        cases hr

theorem StoredAs.not_freeFor (h : l.StoredAs key b ps stored) (hne : ps ≠ []) :
    ¬l.FreeFor key ps := by
  intro hfree
  cases h with
  | nil => exact hne rfl
  | @cons p e ps stored hpe _ =>
    have hnone := hfree p List.mem_cons_self
    rw [hpe.1] at hnone
    cases hnone

theorem StoredAs.unique {stored' : List CommittedEvent} (h : l.StoredAs key b ps stored)
    (h' : l.StoredAs key b ps stored') : stored = stored' :=
  Option.some.inj ((resubmitted?_eq_some_iff.2 h).symm.trans (resubmitted?_eq_some_iff.2 h'))

theorem FirstTaken.not_freeFor {n : Nat} (h : l.FirstTaken key ps n) : ¬l.FreeFor key ps := by
  intro hfree
  obtain ⟨p, hp, hpn⟩ := List.mem_map.1 h.mem
  exact h.taken (hpn ▸ hfree p hp)

/-- A batch that does not pass the check is refused. -/
theorem commit_of_error {e : Error} (hv : validateBatch ps = .error e) :
    l.commit key b ps = (.error e, l) := by
  rcases l.commit_cases key b ps with
    ⟨e', he, hc⟩ | ⟨hok, -⟩ | ⟨hok, -⟩ | ⟨hok, -⟩
  · rw [hc, Except.error.inj (hv.symm.trans he)]
  all_goals
    rw [hv] at hok
    cases hok

/-- A batch that is stored already yields its stored events. -/
theorem commit_of_storedAs (hv : validateBatch ps = .ok ()) (h : l.StoredAs key b ps stored) :
    l.commit key b ps = (.ok stored, l) := by
  have hne : ps ≠ [] := by
    obtain ⟨p, rest, rfl, -⟩ := numbered_of_validateBatch hv
    exact List.cons_ne_nil p rest
  rcases l.commit_cases key b ps with
    ⟨e, he, -⟩ | ⟨-, hfree, -⟩ | ⟨-, -, stored', h', hc⟩ | ⟨-, hno, -⟩
  · rw [hv] at he
    cases he
  · exact absurd hfree (h.not_freeFor hne)
  · rw [hc, h.unique h']
  · exact absurd h (hno stored)

/-! ### What a commit does -/

/-- **What putting a batch at free places does.** -/
theorem Coherent.extends_append (h : l.Coherent) (hrun : RunsOn (ps.map (·.sequence))) :
    l.Extends key b ps (number key b l.lastGlobal ps)
      (l.append key (number key b l.lastGlobal ps)) where
  brought := forall₂_number key b l.lastGlobal ps
  globals := map_globalSequence_number key b l.lastGlobal ps
  counted := congrArg (l.lastGlobal + ·) (length_number key b l.lastGlobal ps)
  all_eq := h.all_append key b ps
  held := by
    intro e he
    refine event?_append_of_mem he ?_
    rw [map_sequence_number]
    exact hrun.nodup
  kept := by
    intro key' n hn
    refine event?_append_of_ne ?_
    intro hkey e he heq
    refine hn hkey ?_
    rw [← map_sequence_number key b l.lastGlobal, ← heq]
    exact List.mem_map_of_mem he

theorem FreeFor.append (hfree : l.FreeFor key ps) (h : l.Coherent)
    (hrun : RunsOn (ps.map (·.sequence))) :
    (l.append key (number key b l.lastGlobal ps)).Coherent :=
  h.append hfree hrun.nodup

/-- Commits keep a log coherent. -/
theorem Coherent.commit (h : l.Coherent) (key : StreamKey) (b : Uuid) (ps : List PendingEvent) :
    (l.commit key b ps).2.Coherent := by
  rcases l.commit_cases key b ps with
    ⟨e, -, hc⟩ | ⟨hv, hfree, hc⟩ | ⟨-, -, stored, -, hc⟩ | ⟨-, -, n, -, hc⟩ <;> rw [hc]
  · exact h
  · exact hfree.append h (runsOn_of_validateBatch hv)
  · exact h
  · exact h

/-! ### Identifiers of batches -/

/-- A batch under an identifier that is not used is not stored. -/
theorem Unused.not_storedAs (hb : l.Unused b) (h : l.Coherent) (hne : ps ≠ []) :
    ¬l.StoredAs key b ps stored := by
  intro hstored
  obtain ⟨p, hp⟩ := List.exists_mem_of_ne_nil ps hne
  obtain ⟨e, he, heb⟩ := hstored.exists_event (List.mem_map_of_mem hp)
  exact hb e (h.placed.1 he).1 heb

/-- A commit stores nothing under another identifier. -/
theorem Unused.commit (hb : l.Unused b) (h : l.Coherent) {b' : Uuid} (hne : b' ≠ b)
    (key : StreamKey) (ps : List PendingEvent) : (l.commit key b' ps).2.Unused b := by
  rcases l.commit_cases key b' ps with
    ⟨_, -, hc⟩ | ⟨-, hfree, hc⟩ | ⟨-, -, stored, -, hc⟩ | ⟨-, -, m, -, hc⟩ <;> rw [hc]
  · exact hb
  · intro e he
    rw [h.all_append, List.mem_append] at he
    rcases he with he | he
    · exact hb e he
    · rw [(mem_number he).1]
      exact hne
  · exact hb
  · exact hb

theorem Unused.delete (hb : l.Unused b) (h : l.Coherent) (key : StreamKey) :
    (l.delete key).2.Unused b := by
  intro e he
  rw [h.all_delete] at he
  exact hb e (List.mem_filter.1 he).1

/-! ### Places -/

/-- A commit holds every place that is taken. -/
theorem event?_commit (key : StreamKey) (b : Uuid) (ps : List PendingEvent) {key' : StreamKey}
    {n : Nat} {e : CommittedEvent} (he : l.event? key' n = some e) :
    (l.commit key b ps).2.event? key' n = some e := by
  rcases l.commit_cases key b ps with
    ⟨_, -, hc⟩ | ⟨-, hfree, hc⟩ | ⟨-, -, stored, -, hc⟩ | ⟨-, -, m, -, hc⟩ <;> rw [hc]
  · exact he
  · refine (event?_append_of_ne ?_).trans he
    rintro rfl e' he' rfl
    obtain ⟨p, hp, heq⟩ := exists_of_mem_number he'
    have hnone : l.event? key e'.sequence = none := by
      rw [heq]
      exact hfree p hp
    rw [hnone] at he
    cases he
  · exact he
  · exact he

/-- A deletion holds every place of the other streams. -/
theorem event?_delete {key' : StreamKey} (hk : key ≠ key') (n : Nat) :
    (l.delete key).2.event? key' n = l.event? key' n :=
  event?_of_stream_eq (by rw [stream_delete, if_neg hk])

end EventLedger.EventLog
