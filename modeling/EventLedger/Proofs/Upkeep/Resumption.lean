import EventLedger.Proofs.EventLog.Bookkeeping
import EventLedger.Proofs.Upkeep.Commands
import EventLedger.Proofs.Upkeep.Renewal

/-!
# Purges that stop half way

A purge changes two stores one after the other, and either change may fail.  The events go first,
so what a purge that has failed leaves behind is everything or a snapshot without events, and never
events without their snapshot.  Another purge finds the same work to do or less, so that however
often purges fail, the first one that succeeds leaves the storage as one that was not disturbed
would have.  Nothing of this touches another aggregate, whether its identifier is the same or not.

## Main definitions

* `MemoryStorage.withoutEvents`, `MemoryStorage.without` — a storage without the events of an
  aggregate, and without its snapshot either.
* `MemoryStorage.Purged m key r m'` — how a purge ends.
* `MemoryStorage.Stage m key m'` — how far the purges of an aggregate have come.
* `MemoryStorage.SameBut m key m'` — nothing but one aggregate has changed.
* `MemoryStorage.Repurged` — any number of purges, of which each may fail.
* `MemoryStorage.Purgeable` — what purges of an aggregate come to.

## Main results

* `MemoryStorage.runsTo_purge_iff` — **a purge has three ends.**
* `MemoryStorage.Stage.purged`, `MemoryStorage.Stage.repurged` — one more purge, and any number.
* `MemoryStorage.purgeable_of_coherent` — **a purge does all or can be resumed**, and what was
  purged begins again.
-/

namespace EventLedger

open AdminCall (Serves)
open Call (RunsTo)

namespace EventLog

variable {l : EventLog}

/-- What was deleted is not there to be deleted again. -/
theorem delete_delete (l : EventLog) (key : StreamKey) :
    ((l.delete key).2.delete key).2 = (l.delete key).2 := by
  have hgone : ((l.delete key).2.stream key).values = [] := by
    rw [stream_delete, if_pos rfl]
    rfl
  have hstreams : (l.delete key).2.streams.erase key = (l.delete key).2.streams := by
    refine OrderedMap.ext_get? fun key' => ?_
    simp only [delete, OrderedMap.get?_erase]
    split
    · rfl
    · rfl
  rw [delete, hgone, hstreams]
  rfl

end EventLog

theorem SnapshotShelf.delete_delete (shelf : SnapshotShelf) (key : StreamKey) :
    (shelf.delete key).delete key = shelf.delete key := by
  refine SnapshotShelf.ext_load fun key' => ?_
  simp only [SnapshotShelf.load_delete]
  split
  · rfl
  · rfl

namespace MemoryStorage

/-- The storage without the events of an aggregate. -/
def withoutEvents (m : MemoryStorage) (key : StreamKey) : MemoryStorage :=
  { m with events := (m.events.delete key).2 }

/-- The storage without the events and the snapshot of an aggregate. -/
def without (m : MemoryStorage) (key : StreamKey) : MemoryStorage :=
  ⟨(m.events.delete key).2, m.shelf.delete key⟩

/-- How a purge ends: nothing is done, or the events are removed, or the snapshot is removed as
well.  In the last case it yields the number of the events that it has removed, and in the others it
fails. -/
inductive Purged (m : MemoryStorage) (key : StreamKey) :
    Except AdminError Nat → MemoryStorage → Prop
  | untouched (e : Error) : Purged m key (.error (.ledger e)) m
  | orphaned (e : Error) : Purged m key (.error (.ledger e)) (m.withoutEvents key)
  | removed : Purged m key (.ok (m.events.all.filter (·.key = key)).length) (m.without key)

/-- How far the purges of an aggregate have come. -/
inductive Stage (m : MemoryStorage) (key : StreamKey) : MemoryStorage → Prop
  | untouched : Stage m key m
  | orphaned : Stage m key (m.withoutEvents key)
  | removed : Stage m key (m.without key)

/-- Nothing but one aggregate has changed. -/
structure SameBut (m : MemoryStorage) (key : StreamKey) (m' : MemoryStorage) : Prop where
  /-- The other streams are as they were, also one with the same identifier; -/
  streams : ∀ key', key' ≠ key → m'.events.stream key' = m.events.stream key'
  /-- their events are in the same order under the same global numbers, -/
  others : m'.events.all.filter (·.key ≠ key) = m.events.all.filter (·.key ≠ key)
  /-- and the next number to be given out is the same. -/
  counter : m'.events.lastGlobal = m.events.lastGlobal
  /-- The other snapshots are as they were. -/
  shelf : ∀ key', key' ≠ key → m'.shelf.load key' = m.shelf.load key'

/-- Any number of purges of an aggregate lead from one storage to the other, and each of them may
have failed. -/
abbrev Repurged (name id : String) : MemoryStorage → MemoryStorage → Prop :=
  Relation.ReflTransGen fun m m' =>
    ∃ o r o', RunsTo (Serves False) (purge name id) (m, o) r (m', o')

variable {m m' m'' : MemoryStorage} {key : StreamKey} {name id : String} {i : AggregateId}

/-! ### One purge -/

theorem purge_eq (hid : AggregateId.parse id = .ok i) :
    purge name id = (AdminCall.storage (.delete ⟨name, i⟩)).bind fun n =>
      (AdminCall.storage (.deleteSnapshots ⟨name, i⟩)).bind fun _ => .done n := by
  unfold purge
  rw [hid]
  rfl

/-- **A purge has three ends.** -/
theorem runsTo_purge_iff (h : m.events.Coherent) (hid : AggregateId.parse id = .ok i) {o : Output}
    {r : Except AdminError Nat} {w' : MemoryStorage × Output} :
    RunsTo (Serves False) (purge name id) (m, o) r w' ↔
      ∃ m', w' = (m', o) ∧ m.Purged ⟨name, i⟩ r m' := by
  have hdelete : m.serve (.delete ⟨name, i⟩) =
      (.ok (m.events.all.filter (·.key = ⟨name, i⟩)).length, m.withoutEvents ⟨name, i⟩) := by
    rw [← h.fst_delete]
    rfl
  rw [purge_eq hid]
  constructor
  · intro hrun
    rcases hrun.of_bind with ⟨n, w₁, hevents, hrest⟩ | ⟨e, hevents, rfl⟩
    case inr =>
      rcases AdminCall.cases_of_storage hevents with ⟨hok, -⟩ | ⟨-, rfl, e, herr⟩
      · rw [hdelete] at hok
        cases hok
      · obtain rfl := Except.error.inj herr
        exact ⟨m, rfl, .untouched e⟩
    rcases AdminCall.cases_of_storage hevents with ⟨hok, rfl⟩ | ⟨-, -, e, herr⟩
    case inr => cases herr
    rw [hdelete] at hok hrest
    obtain rfl := Except.ok.inj hok
    rcases hrest.of_bind with ⟨u, w₂, hsnapshots, hend⟩ | ⟨e, hsnapshots, rfl⟩
    · rcases AdminCall.cases_of_storage hsnapshots with ⟨-, rfl⟩ | ⟨-, -, e, herr⟩
      · cases hend
        exact ⟨m.without ⟨name, i⟩, rfl, .removed⟩
      · cases herr
    · rcases AdminCall.cases_of_storage hsnapshots with ⟨hok, -⟩ | ⟨-, rfl, e, herr⟩
      · cases hok
      · obtain rfl := Except.error.inj herr
        exact ⟨m.withoutEvents ⟨name, i⟩, rfl, .orphaned e⟩
  · rintro ⟨m', rfl, hpurged⟩
    have hevents := AdminCall.runsTo_storage False m o (.delete ⟨name, i⟩)
    rw [hdelete] at hevents
    cases hpurged with
    | untouched e => exact (AdminCall.runsTo_storage_refused m o _ e).bind_error
    | orphaned e => exact hevents.bind (AdminCall.runsTo_storage_refused _ o _ e).bind_error
    | removed =>
      have hsnapshots := AdminCall.runsTo_storage False (m.withoutEvents ⟨name, i⟩) o
        (.deleteSnapshots ⟨name, i⟩)
      exact hevents.bind (hsnapshots.bind (.done _ _))

/-- A purge that nothing disturbs removes everything. -/
theorem runsTo_purge_calm (h : m.events.Coherent) (hid : AggregateId.parse id = .ok i)
    (o : Output) : RunsTo (Serves True) (purge name id) (m, o)
      (.ok (m.events.all.filter (·.key = ⟨name, i⟩)).length) (m.without ⟨name, i⟩, o) := by
  have hevents := AdminCall.runsTo_storage True m o (.delete ⟨name, i⟩)
  have hsnapshots := AdminCall.runsTo_storage True (m.withoutEvents ⟨name, i⟩) o
    (.deleteSnapshots ⟨name, i⟩)
  rw [purge_eq hid, ← h.fst_delete]
  exact hevents.bind (hsnapshots.bind (.done _ _))

/-- A blank identifier is refused before anything is asked. -/
theorem runsTo_purge_blank_iff (hid : Text.isBlank id = true) {calm : Prop}
    {w w' : MemoryStorage × Output} {r : Except AdminError Nat} :
    RunsTo (Serves calm) (purge name id) w r w' ↔
      r = .error (.ledger (.invalidAggregateId id)) ∧ w' = w := by
  have hparse : AggregateId.parse id = .error (.invalidAggregateId id) := by
    rw [AggregateId.parse, AggregateId.ofString?_eq_none_iff.2 hid]
  have hpurge : purge name id = .failed (.ledger (.invalidAggregateId id)) := by
    unfold purge
    rw [hparse]
    rfl
  rw [hpurge]
  constructor
  · intro hrun
    cases hrun
    exact ⟨rfl, rfl⟩
  · rintro ⟨rfl, rfl⟩
    exact .failed _ _

/-! ### Stages -/

theorem without_withoutEvents (m : MemoryStorage) (key : StreamKey) :
    (m.withoutEvents key).without key = m.without key := by
  rw [without, withoutEvents, EventLog.delete_delete]
  rfl

theorem without_without (m : MemoryStorage) (key : StreamKey) :
    (m.without key).without key = m.without key := by
  rw [without, without, EventLog.delete_delete, SnapshotShelf.delete_delete]

/-- What is left to be removed is the same at every stage. -/
theorem Stage.without_eq (h : m.Stage key m') : m'.without key = m.without key := by
  cases h with
  | untouched => rfl
  | orphaned => exact m.without_withoutEvents key
  | removed => exact m.without_without key

theorem Stage.coherent (h : m.Stage key m') (hm : m.events.Coherent) : m'.events.Coherent := by
  cases h with
  | untouched => exact hm
  | orphaned => exact hm.delete key
  | removed => exact hm.delete key

/-- **One more purge**, however it ends. -/
theorem Stage.purged {r : Except AdminError Nat} (h : m.Stage key m') (h' : m'.Purged key r m'') :
    m.Stage key m'' := by
  cases h' with
  | untouched e => exact h
  | orphaned e =>
    cases h with
    | untouched => exact .orphaned
    | orphaned =>
      rw [withoutEvents, withoutEvents, EventLog.delete_delete]
      exact .orphaned
    | removed =>
      rw [withoutEvents, without, EventLog.delete_delete]
      exact .removed
  | removed =>
    rw [h.without_eq]
    exact .removed

/-- **Any number of purges**, however each of them ends. -/
theorem Stage.repurged (hm : m.events.Coherent) (hid : AggregateId.parse id = .ok i)
    (h : Repurged name id m m') : m.Stage ⟨name, i⟩ m' := by
  induction h with
  | refl => exact .untouched
  | tail _ hstep ih =>
    obtain ⟨o, r, o', hrun⟩ := hstep
    obtain ⟨m₁, heq, hpurged⟩ := (runsTo_purge_iff (ih.coherent hm) hid).1 hrun
    obtain ⟨rfl, -⟩ := Prod.mk.inj heq
    exact ih.purged hpurged

/-- Events are left only if nothing was done. -/
theorem Stage.eq_of_ne_nil (h : m.Stage key m')
    (hne : (m'.events.stream key).values ≠ []) : m' = m := by
  have hgone : ((m.events.delete key).2.stream key).values = [] := by
    rw [EventLog.stream_delete, if_pos rfl]
    rfl
  cases h with
  | untouched => rfl
  | orphaned => exact absurd hgone hne
  | removed => exact absurd hgone hne

theorem Stage.sameBut (h : m.Stage key m') (hm : m.events.Coherent) : m.SameBut key m' := by
  have hstreams : ∀ key', key' ≠ key →
      (m.events.delete key).2.stream key' = m.events.stream key' := by
    intro key' hne
    rw [EventLog.stream_delete, if_neg hne.symm]
  have hothers : (m.events.delete key).2.all.filter (·.key ≠ key) =
      m.events.all.filter (·.key ≠ key) := by
    rw [hm.all_delete, List.filter_filter]
    exact List.filter_congr fun _ _ => Bool.and_self _
  cases h with
  | untouched => exact ⟨fun _ _ => rfl, rfl, rfl, fun _ _ => rfl⟩
  | orphaned => exact ⟨hstreams, hothers, rfl, fun _ _ => rfl⟩
  | removed =>
    refine ⟨hstreams, hothers, rfl, ?_⟩
    intro key' hne
    exact (m.shelf.load_delete key key').trans (if_neg hne.symm)

/-- Nothing of an aggregate is left that was removed. -/
theorem vacant_of_without (hm : m.events.Coherent) {w : Depot} (hw : w.storage = m.without key) :
    w.Vacant key where
  coherent := by
    rw [hw]
    exact hm.delete key
  events := by
    rw [hw, without, EventLog.stream_delete, if_pos rfl]
    rfl
  shelf := by
    rw [hw, without, SnapshotShelf.load_delete, if_pos rfl]

/-! ### What purges come to -/

/-- What purges of an aggregate come to. -/
structure Purgeable (m : MemoryStorage) (name id : String) (key : StreamKey) : Prop where
  /-- A purge ends in one of three ways, and each of them is possible. -/
  ends : ∀ o r w', RunsTo (Serves False) (purge name id) (m, o) r w' ↔
    ∃ m', w' = (m', o) ∧ m.Purged key r m'
  /-- However many purges are run, they come no further, -/
  stages : ∀ m', Repurged name id m m' → m.Stage key m'
  /-- events are left only if nothing was done, -/
  kept : ∀ m', m.Stage key m' → (m'.events.stream key).values ≠ [] → m' = m
  /-- and nothing else is changed. -/
  framed : ∀ m', m.Stage key m' → m.SameBut key m'
  /-- At every stage a purge that nothing disturbs succeeds. -/
  calm : ∀ m' o, m.Stage key m' → RunsTo (Serves True) (purge name id) (m', o)
    (.ok (m'.events.all.filter (·.key = key)).length) (m.without key, o)
  /-- Any that succeeds has removed as many events as were left, and what remains is what a single
  purge leaves: -/
  resumed : ∀ m' o n w', m.Stage key m' → RunsTo (Serves False) (purge name id) (m', o) (.ok n) w' →
    n = (m'.events.all.filter (·.key = key)).length ∧ w' = (m.without key, o)
  /-- neither events nor a snapshot of the aggregate. -/
  removed : ((m.without key).events.stream key).values = [] ∧
    (∀ e ∈ (m.without key).events.all, e.key ≠ key) ∧ (m.without key).shelf.load key = none
  /-- After that, a store without a cache loads the aggregate as a new one, -/
  renewed : ∀ {σ ε : Type} (s : AggregateStore σ ε) (i : Nat) (w : Depot),
    w.storage = m.without key → s.keyOf key.id = key → s.caching = false → w.fired i = false →
      w.Yields s i key.id (.ok (s.newRoot key.id))
  /-- and the next update, whatever it decides to emit, numbers its events from one on. -/
  restarted : ∀ {σ ε : Type} (s : AggregateStore σ ε) (i : Nat) (w : Depot)
    (decide : Root σ ε → Except Error (Root σ ε)) (source : Option String),
    w.storage = m.without key → s.keyOf key.id = key → s.caching = false → w.fired i = false →
      (∀ root decided, decide root = .ok decided → Root.Emits s.aggregate root decided) →
      (∃ r w', RunsTo (Depot.Decides s decide i) (s.update key.id source) w r w') ∧
        ∀ r w', RunsTo (Depot.Decides s decide i) (s.update key.id source) w r w' →
          Depot.Begins s decide key.id w r w'

/-- **A purge does all or can be resumed**, and what was purged begins again.  A blank identifier
changes nothing. -/
theorem purgeable_of_coherent (hm : m.events.Coherent) (name id : String) :
    (Text.isBlank id = true → ∀ o r w', RunsTo (Serves False) (purge name id) (m, o) r w' ↔
      r = .error (.ledger (.invalidAggregateId id)) ∧ w' = (m, o)) ∧
    ∀ i : AggregateId, i.value = id → m.Purgeable name id ⟨name, i⟩ := by
  refine ⟨fun hblank o r w' => runsTo_purge_blank_iff hblank, ?_⟩
  rintro i rfl
  have hid : AggregateId.parse i.value = .ok i := by
    rw [AggregateId.parse, AggregateId.ofString?_value]
  constructor
  case ends => exact fun o r w' => runsTo_purge_iff hm hid
  case stages => exact fun m' h => .repurged hm hid h
  case kept => exact fun m' h => h.eq_of_ne_nil
  case framed => exact fun m' h => h.sameBut hm
  case calm =>
    intro m' o h
    rw [← h.without_eq]
    exact runsTo_purge_calm (h.coherent hm) hid o
  case resumed =>
    intro m' o n w' h hrun
    obtain ⟨m'', rfl, hpurged⟩ := (runsTo_purge_iff (h.coherent hm) hid).1 hrun
    cases hpurged with
    | removed => exact ⟨rfl, by rw [h.without_eq]⟩
  case removed =>
    have hvacant := vacant_of_without hm (w := ⟨m.without ⟨name, i⟩, fun _ => false, []⟩) rfl
    refine ⟨hvacant.events, ?_, hvacant.shelf⟩
    intro e he
    have hmem : e ∈ (m.events.delete ⟨name, i⟩).2.all := he
    rw [hm.all_delete, List.mem_filter, decide_eq_true_eq] at hmem
    exact hmem.2
  case renewed =>
    intro σ ε s n w hw hkey hcaching hfired
    have hvacant := vacant_of_without hm hw
    rw [← hkey] at hvacant
    exact Depot.yields_initial s hcaching hfired hvacant.shelf hvacant.events
  case restarted =>
    intro σ ε s n w decide source hw hkey hcaching hfired hemits
    have hvacant := vacant_of_without hm hw
    rw [← hkey] at hvacant
    exact hvacant.begins_of_update hcaching hfired hemits source

/-- Two aggregates with one identifier, each with events and a snapshot. -/
def stocked : MemoryStorage :=
  run {} (namesakes ++
    [.storeSnapshot ⟨sampleKey, 3, .null, .empty⟩, .storeSnapshot ⟨namesakeKey, 1, .null, .empty⟩])

/-- A purge that was cancelled half way is resumed.  It finds no events any more, and the other
aggregate keeps its snapshot. -/
theorem resumes_stocked :
    stocked.events.Coherent ∧
      RunsTo (Serves False) (purge "order" "order-2") (stocked, {}) (.error (.ledger .cancelled))
        (stocked.withoutEvents sampleKey, {}) ∧
      RunsTo (Serves True) (purge "order" "order-2") (stocked.withoutEvents sampleKey, {}) (.ok 0)
        (stocked.without sampleKey, {}) ∧
      (stocked.without sampleKey).shelf.load sampleKey = none ∧
      ((stocked.without sampleKey).shelf.load namesakeKey).map (·.sequence) = some 1 := by
  have hcoherent : stocked.events.Coherent := Reachable.coherent ⟨_, rfl⟩
  have hpurgeable : stocked.Purgeable "order" "order-2" sampleKey :=
    (purgeable_of_coherent hcoherent "order" "order-2").2 sampleKey.id rfl
  have hrest : (stocked.withoutEvents sampleKey).events.all.filter (·.key = sampleKey) = [] := by
    rw [List.filter_eq_nil_iff]
    intro e he
    simpa using hpurgeable.removed.2.1 e he
  have hagain := hpurgeable.calm _ {} .orphaned
  rw [hrest] at hagain
  have hother := (hpurgeable.framed _ .removed).shelf namesakeKey (by decide)
  refine ⟨hcoherent, ?_, hagain, hpurgeable.removed.2.2, ?_⟩
  · exact (hpurgeable.ends {} _ _).2 ⟨_, rfl, .orphaned .cancelled⟩
  · rw [hother]
    decide +kernel

end MemoryStorage

end EventLedger
