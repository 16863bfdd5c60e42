import EventLedger.Proofs.EventLog.Commits
import EventLedger.Storage

/-!
# The storage in memory

A run of requests leads from the empty storage to one whose log is coherent.  As long as a stream is
not deleted, its places hold what they hold: a batch that was accepted once is recognised ever after,
and a place decides between all batches that are brought for it.

## Main definitions

* `MemoryStorage.run m qs` — the storage after a run of requests.
* `MemoryStorage.Reachable m` — a run leads from the empty storage to `m`.
* `MemoryStorage.Accepts m qs key n b` — in a run, the batch `b` was accepted with the number `n`.
* `MemoryStorage.CommitsSoundly m key b ps` — what a commit may come to, and what it leads to.

## Main results

* `MemoryStorage.Reachable.coherent` — the log of a reachable storage is coherent.
* `MemoryStorage.event?_run` — places are held.
* `MemoryStorage.commitsSoundly_of_reachable` — **a commit appends, recognises or refuses its batch,
  and a batch that was accepted stays accepted, alone of all that share a number with it.**
-/

namespace EventLedger.MemoryStorage

/-- The storage after a run of requests. -/
def run (m : MemoryStorage) (qs : List StorageRequest) : MemoryStorage :=
  qs.foldl (fun m q => (m.serve q).2) m

/-- A run of requests leads from the empty storage to `m`. -/
def Reachable (m : MemoryStorage) : Prop := ∃ qs, m = run {} qs

/-- In the run of `qs` from `m`, a batch with the identifier `b` and the number `n` was accepted for
the stream. -/
def Accepts (m : MemoryStorage) (qs : List StorageRequest) (key : StreamKey) (n : Nat) (b : Uuid) :
    Prop :=
  ∃ before ps rest stored, qs = before ++ .commit key b ps :: rest ∧ n ∈ ps.map (·.sequence) ∧
    ((m.run before).serve (.commit key b ps)).1 = .ok stored

/-- What a commit of the batch may come to in the storage, and what it leads to. -/
structure CommitsSoundly (m : MemoryStorage) (key : StreamKey) (b : Uuid) (ps : List PendingEvent) :
    Prop where
  /-- A batch whose numbers do not run on is refused as invalid, and nothing changes. -/
  invalid : ¬RunsOn (ps.map (·.sequence)) →
    ∃ reason, m.serve (.commit key b ps) = (.error (.invalidBatch reason), m)
  /-- A batch at free places is appended as a whole and returned. -/
  appended : RunsOn (ps.map (·.sequence)) → m.events.FreeFor key ps →
    ∃ stored l, m.serve (.commit key b ps) = (.ok stored, { m with events := l }) ∧
      m.events.Extends key b ps stored l
  /-- A batch that every place holds is answered with its stored events, and nothing changes. -/
  recognised : ∀ stored, RunsOn (ps.map (·.sequence)) → m.events.StoredAs key b ps stored →
    m.serve (.commit key b ps) = (.ok stored, m)
  /-- Every other batch is in conflict at the least number that is taken, and nothing changes. -/
  conflict : RunsOn (ps.map (·.sequence)) → ¬m.events.FreeFor key ps →
    (∀ stored, ¬m.events.StoredAs key b ps stored) →
    ∃ n, m.events.FirstTaken key ps n ∧
      m.serve (.commit key b ps) = (.error (.concurrency key.name key.id n), m)
  /-- A batch that was accepted is recognised after any requests that do not delete its stream. -/
  again : ∀ stored m' qs, m.serve (.commit key b ps) = (.ok stored, m') →
    (∀ q ∈ qs, q ≠ .delete key) →
    (m'.run qs).serve (.commit key b ps) = (.ok stored, m'.run qs)
  /-- Of the batches that share a number, one identifier at most is accepted. -/
  once : ∀ n qs b₁ b₂, (∀ q ∈ qs, q ≠ .delete key) → m.Accepts qs key n b₁ → m.Accepts qs key n b₂ →
    b₁ = b₂

variable {m : MemoryStorage} {key : StreamKey} {b : Uuid} {ps : List PendingEvent}

theorem run_append (m : MemoryStorage) (qs qs' : List StorageRequest) :
    m.run (qs ++ qs') = (m.run qs).run qs' :=
  List.foldl_append

theorem serve_commit {r : Except Error (List CommittedEvent)} {l : EventLog}
    (h : m.events.commit key b ps = (r, l)) :
    m.serve (.commit key b ps) = (r, { m with events := l }) := by
  rw [serve, h]
  rfl

/-- A commit is carried through, whatever the client's token does. -/
theorem answer_commit (m : MemoryStorage) (cancelled : Bool) (key : StreamKey) (b : Uuid)
    (ps : List PendingEvent) :
    m.answer cancelled (.commit key b ps) = m.serve (.commit key b ps) := by
  rw [answer, StorageRequest.heedsCancel, Bool.and_false, if_neg Bool.false_ne_true]

/-- A client that has not cancelled is served. -/
theorem answer_false (m : MemoryStorage) (q : StorageRequest) : m.answer false q = m.serve q := by
  rw [answer, Bool.false_and, if_neg Bool.false_ne_true]

/-- A client that has cancelled may be refused; the storage is as it was then. -/
theorem answer_cases (m : MemoryStorage) (cancelled : Bool) (q : StorageRequest) :
    m.answer cancelled q = (.error .cancelled, m) ∨ m.answer cancelled q = m.serve q := by
  unfold answer
  split
  · exact .inl rfl
  · exact .inr rfl

/-! ### Coherence -/

/-- Every request keeps the log coherent. -/
theorem coherent_serve (h : m.events.Coherent) (q : StorageRequest) :
    (m.serve q).2.events.Coherent := by
  cases q with
  | commit key b ps => exact h.commit key b ps
  | delete key => exact h.delete key
  | load key start => exact h
  | page start size => exact h
  | loadSnapshot key => exact h
  | storeSnapshot s => exact h
  | deleteSnapshots key => exact h

theorem coherent_run (h : m.events.Coherent) (qs : List StorageRequest) :
    (m.run qs).events.Coherent := by
  induction qs generalizing m with
  | nil => exact h
  | cons q qs ih => exact ih (coherent_serve h q)

theorem Reachable.coherent (h : m.Reachable) : m.events.Coherent := by
  obtain ⟨qs, rfl⟩ := h
  exact coherent_run EventLog.coherent_empty qs

/-! ### Identifiers of batches -/

/-- A request stores nothing under an identifier that it does not bring. -/
theorem unused_serve (h : m.events.Coherent) (hb : m.events.Unused b) {q : StorageRequest}
    (hq : ∀ key ps, q ≠ .commit key b ps) : (m.serve q).2.events.Unused b := by
  cases q with
  | commit key b' ps =>
    have hne : b' ≠ b := fun heq => hq key ps (heq ▸ rfl)
    exact hb.commit h hne key ps
  | delete key => exact hb.delete h key
  | load key start => exact hb
  | page start size => exact hb
  | loadSnapshot key => exact hb
  | storeSnapshot s => exact hb
  | deleteSnapshots key => exact hb

theorem unused_run (h : m.events.Coherent) (hb : m.events.Unused b) {qs : List StorageRequest}
    (hqs : ∀ q ∈ qs, ∀ key ps, q ≠ .commit key b ps) : (m.run qs).events.Unused b := by
  induction qs generalizing m with
  | nil => exact hb
  | cons q qs ih =>
    obtain ⟨hq, hqs⟩ := List.forall_mem_cons.1 hqs
    exact ih (coherent_serve h q) (unused_serve h hb hq) hqs

/-! ### Places -/

/-- A request that does not delete a stream holds its places. -/
theorem event?_serve {q : StorageRequest} (hq : q ≠ .delete key) {n : Nat} {e : CommittedEvent}
    (he : m.events.event? key n = some e) : (m.serve q).2.events.event? key n = some e := by
  cases q with
  | commit key' b ps => exact EventLog.event?_commit key' b ps he
  | delete key' =>
    have hk : key' ≠ key := fun hk => hq (hk ▸ rfl)
    exact (EventLog.event?_delete hk n).trans he
  | load key start => exact he
  | page start size => exact he
  | loadSnapshot key => exact he
  | storeSnapshot s => exact he
  | deleteSnapshots key => exact he

/-- **Places are held** as long as their stream is not deleted. -/
theorem event?_run {qs : List StorageRequest} (hqs : ∀ q ∈ qs, q ≠ .delete key) {n : Nat}
    {e : CommittedEvent} (he : m.events.event? key n = some e) :
    (m.run qs).events.event? key n = some e := by
  induction qs generalizing m with
  | nil => exact he
  | cons q qs ih =>
    obtain ⟨hq, hqs⟩ := List.forall_mem_cons.1 hqs
    exact ih hqs (event?_serve hq he)

/-! ### Accepted batches -/

/-- A batch that was accepted passed the check and is stored. -/
theorem storedAs_of_serve (h : m.events.Coherent) {stored : List CommittedEvent}
    (hc : (m.serve (.commit key b ps)).1 = .ok stored) :
    validateBatch ps = .ok () ∧
      (m.serve (.commit key b ps)).2.events.StoredAs key b ps stored := by
  simp only [serve] at hc ⊢
  rcases m.events.commit_cases key b ps with
    ⟨e, -, heq⟩ | ⟨hv, hfree, heq⟩ | ⟨hv, -, stored', hstored, heq⟩ | ⟨-, -, n, -, heq⟩ <;>
    rw [heq] at hc ⊢
  · cases hc
  · obtain rfl := Except.ok.inj hc
    exact ⟨hv, (h.extends_append (EventLog.runsOn_of_validateBatch hv)).storedAs⟩
  · obtain rfl := Except.ok.inj hc
    exact ⟨hv, hstored⟩
  · cases hc

/-- A batch that was accepted is stored after the run. -/
theorem Accepts.exists_event {qs : List StorageRequest} {n : Nat} (h : m.events.Coherent)
    (hqs : ∀ q ∈ qs, q ≠ .delete key) (ha : m.Accepts qs key n b) :
    ∃ e, (m.run qs).events.event? key n = some e ∧ e.batchId = b := by
  obtain ⟨before, ps, rest, stored, rfl, hn, hc⟩ := ha
  obtain ⟨-, hstored⟩ := storedAs_of_serve (coherent_run h before) hc
  obtain ⟨e, he, hb⟩ := hstored.exists_event hn
  refine ⟨e, ?_, hb⟩
  rw [run_append]
  refine event?_run (m := ((m.run before).serve (.commit key b ps)).2) ?_ he
  intro q hq
  exact hqs q (List.mem_append_right before (List.mem_cons_of_mem _ hq))

/-- **A commit appends, recognises or refuses its batch, and a batch that was accepted stays
accepted, alone of all that share a number with it.** -/
theorem commitsSoundly_of_reachable (hm : m.Reachable) (key : StreamKey) (b : Uuid)
    (hps : StaysBelow (greatestSequence + 1) ps) : m.CommitsSoundly key b ps := by
  have h := hm.coherent
  have hvalid : RunsOn (ps.map (·.sequence)) → validateBatch ps = .ok () := by
    intro hrun
    rcases validateBatch_cases hps with ⟨-, hv⟩ | ⟨hno, -⟩
    · exact hv
    · exact absurd hrun hno
  constructor
  case invalid =>
    intro hno
    rcases validateBatch_cases hps with ⟨hrun, -⟩ | ⟨-, reason, hv⟩
    · exact absurd hrun hno
    · exact ⟨reason, serve_commit (EventLog.commit_of_error hv)⟩
  case appended =>
    intro hrun hfree
    rcases m.events.commit_cases key b ps with
      ⟨e, hv, -⟩ | ⟨-, -, hc⟩ | ⟨-, hno, -⟩ | ⟨-, -, n, hn, -⟩
    · rw [hvalid hrun] at hv
      cases hv
    · exact ⟨_, _, serve_commit hc, h.extends_append hrun⟩
    · exact absurd hfree hno
    · exact absurd hfree hn.not_freeFor
  case recognised =>
    intro stored hrun hstored
    exact serve_commit (EventLog.commit_of_storedAs (hvalid hrun) hstored)
  case conflict =>
    intro hrun hno hnever
    rcases m.events.commit_cases key b ps with
      ⟨e, hv, -⟩ | ⟨-, hfree, -⟩ | ⟨-, -, stored, hstored, -⟩ | ⟨-, -, n, hn, hc⟩
    · rw [hvalid hrun] at hv
      cases hv
    · exact absurd hfree hno
    · exact absurd hstored (hnever stored)
    · exact ⟨n, hn, serve_commit hc⟩
  case again =>
    intro stored m' qs hc hqs
    have hfst := congrArg Prod.fst hc
    obtain ⟨hv, hstored⟩ := storedAs_of_serve h hfst
    rw [hc] at hstored
    -- no later request takes an event from its place
    have hlater := hstored.mono fun n e he => event?_run hqs he
    exact serve_commit (EventLog.commit_of_storedAs hv hlater)
  case once =>
    intro n qs b₁ b₂ hqs h₁ h₂
    -- both batches put an event at the place `n`, which holds one event only
    obtain ⟨e₁, he₁, hb₁⟩ := h₁.exists_event h hqs
    obtain ⟨e₂, he₂, hb₂⟩ := h₂.exists_event h hqs
    rw [he₁] at he₂
    obtain rfl := Option.some.inj he₂
    exact hb₁.symm.trans hb₂

/-- A stream for examples. -/
def sampleKey : StreamKey := ⟨"order", ⟨"order-2", by decide⟩⟩

/-- A batch with the given numbers, for examples. -/
def sampleBatch (ns : List Nat) : List PendingEvent :=
  ns.map fun n => ⟨n, ⟨"ItemAdded", 2⟩, .str "apple", .empty⟩

/-- A batch around a place that is taken is in conflict there. -/
theorem conflict_around_taken :
    (run {} [.commit sampleKey (.ofNat 1) (sampleBatch [2])]).Reachable ∧
      StaysBelow (greatestSequence + 1) (sampleBatch [1, 2, 3]) ∧
      ((run {} [.commit sampleKey (.ofNat 1) (sampleBatch [2])]).serve
        (.commit sampleKey (.ofNat 2) (sampleBatch [1, 2, 3]))).1 =
          .error (.concurrency sampleKey.name sampleKey.id 2) := by
  have hreach : (run {} [.commit sampleKey (.ofNat 1) (sampleBatch [2])]).Reachable := ⟨_, rfl⟩
  have hbelow : StaysBelow (greatestSequence + 1) (sampleBatch [1, 2, 3]) := by
    rintro p ⟨⟩
    decide
  have hplaces : ∀ n ∈ [1, 2, 3],
      ((run {} [.commit sampleKey (.ofNat 1) (sampleBatch [2])]).events.event? sampleKey n).isSome =
        decide (n = 2) := by
    decide +kernel
  have hfree : ∀ n ∈ [1, 2, 3], n ≠ 2 →
      (run {} [.commit sampleKey (.ofNat 1) (sampleBatch [2])]).events.event? sampleKey n = none := by
    intro n hn hne
    have hplace := hplaces n hn
    rwa [decide_eq_false hne, Option.isSome_eq_false_iff, Option.isNone_iff_eq_none] at hplace
  obtain ⟨e, he⟩ := Option.isSome_iff_exists.1 (hplaces 2 (by decide))
  have hsound := commitsSoundly_of_reachable hreach sampleKey (.ofNat 2) hbelow
  obtain ⟨n, hn, hc⟩ := hsound.conflict ⟨1, Nat.le_refl 1, by decide, rfl⟩
    (by
      intro hall
      have hnone := hall _ (List.mem_cons_of_mem _ List.mem_cons_self)
      cases he.symm.trans hnone)
    (by
      intro stored hstored
      obtain ⟨e', he', -⟩ := hstored.exists_event (n := 1) (by decide)
      cases he'.symm.trans (hfree 1 (by decide) (by decide)))
  have hn2 : n = 2 := by
    by_contra hne
    exact hn.taken (hfree n hn.mem hne)
  rw [hc, hn2]
  exact ⟨hreach, hbelow, rfl⟩

end EventLedger.MemoryStorage
