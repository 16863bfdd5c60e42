import EventLedger.Proofs.Reading
import EventLedger.Proofs.Requests
import EventLedger.Proofs.Upkeep.Depot

/-!
# Loads that are run alone

While the others rest, a load without a cache starts from the newest snapshot, if its store uses
snapshots and can read that one, and replays the events after it.

## Main definitions

* `Depot.StartsFrom` — the snapshot and the state that a load starts from.
* `Depot.Yields` — a load that is run alone ends, and always with the same result.

## Main results

* `Depot.yields_rebuiltFrom` — **a load without a cache replays the events after the snapshot.**
-/

namespace EventLedger

open Call (RunsTo)

variable {σ ε : Type}

namespace Depot

/-- The snapshot and the state that a load starts from. -/
inductive StartsFrom (w : Depot) (s : AggregateStore σ ε) (key : StreamKey) :
    Option Snapshot → σ → Prop
  /-- A store that uses no snapshots starts from the initial state, -/
  | plain : s.snapshots = none → StartsFrom w s key none s.aggregate.initial
  /-- and so does one that finds none -/
  | missing : w.storage.shelf.load key = none → StartsFrom w s key none s.aggregate.initial
  /-- or cannot read it. -/
  | unreadable {x : Snapshot} {reason : String} : w.storage.shelf.load key = some x →
      s.codec.readState x.state = .error reason → StartsFrom w s key none s.aggregate.initial
  /-- Otherwise it starts from the state that the snapshot holds. -/
  | resumed {strategy : SnapshotStrategy} {x : Snapshot} {state : σ} :
      s.snapshots = some strategy → w.storage.shelf.load key = some x →
      s.codec.readState x.state = .ok state → StartsFrom w s key (some x) state

/-- The load of an aggregate, run alone by a call with the number `i`, ends, and always with the
result `r`. -/
def Yields (w : Depot) (s : AggregateStore σ ε) (i : Nat) (id : AggregateId)
    (r : Except Error (Root σ ε)) : Prop :=
  (∃ w', RunsTo (Answers s i) (s.load id) w r w') ∧
    ∀ r' w', RunsTo (Answers s i) (s.load id) w r' w' → r' = r

variable {w w' : Depot} {s : AggregateStore σ ε} {i : Nat} {id : AggregateId} {key : StreamKey}
  {snapshot : Option Snapshot} {state : σ}

theorem serve_loadSnapshot (hfired : w.fired i = false) (key : StreamKey) :
    w.serve i (.loadSnapshot key) = (.ok (w.storage.shelf.load key), w) := by
  rw [serve, MemoryStorage.answer, hfired]
  rfl

theorem serve_load (hfired : w.fired i = false) (key : StreamKey) (start : Nat) :
    w.serve i (.load key start) = (.ok (w.storage.events.load key start), w) := by
  rw [serve, MemoryStorage.answer, hfired]
  rfl

/-- A client that has not cancelled passes. -/
theorem eq_of_runsTo_checkLive {r : Except Error Unit} (hfired : w.fired i = false)
    (hrun : RunsTo (Answers s i) StoreCall.checkLive w r w') : r = .ok () ∧ w' = w :=
  StoreCall.eq_of_runsTo_checkLive (fun ha => ⟨ha.1.trans hfired, ha.2⟩) hrun

/-- What a client that has not cancelled reads. -/
theorem eq_of_runsTo_load {r : Except Error (List CommittedEvent)} {start : Nat}
    (hfired : w.fired i = false)
    (hrun : RunsTo (Answers s i) (StoreCall.storage (.load key start)) w r w') :
    r = .ok (w.storage.events.load key start) ∧ w' = w := by
  cases hrun with
  | waiting hload hrun =>
    obtain ⟨rfl, rfl⟩ := Prod.mk.inj ((serve_load hfired key start).symm.trans hload)
    cases hrun
    exact ⟨rfl, rfl⟩

/-- The snapshot on the shelf is used if it can be read. -/
theorem eq_of_runsTo_usableSnapshot {r : Except Error (Option Snapshot)}
    (hfired : w.fired i = false)
    (hrun : RunsTo (Answers s i) (AggregateStore.usableSnapshot key) w r w') :
    r = .ok ((w.storage.shelf.load key).filter fun x => (s.codec.readState x.state).isOk) ∧
      w' = w := by
  cases hrun with
  | waiting hload hrest =>
    obtain ⟨rfl, rfl⟩ := Prod.mk.inj ((serve_loadSnapshot hfired key).symm.trans hload)
    cases hshelf : w.storage.shelf.load key with
    | none =>
      rw [hshelf] at hrest
      cases hrest
      exact ⟨rfl, rfl⟩
    | some x =>
      rw [hshelf] at hrest
      cases hrest with
      | waiting hread hend =>
        obtain ⟨rfl, rfl⟩ := hread
        rw [Option.filter_some]
        cases hstate : s.codec.readState x.state with
        | error reason =>
          rw [hstate] at hend
          cases hend
          exact ⟨rfl, rfl⟩
        | ok state =>
          rw [hstate] at hend
          cases hend
          exact ⟨rfl, rfl⟩

theorem StartsFrom.eq_of_runsTo (h : w.StartsFrom s key snapshot state)
    {r : Except Error (Option Snapshot)} (hfired : w.fired i = false)
    (hrun : RunsTo (Answers s i) (s.startingSnapshot key) w r w') : r = .ok snapshot ∧ w' = w := by
  unfold AggregateStore.startingSnapshot at hrun
  split at hrun
  next hplain =>
    cases hrun
    cases h with
    | resumed hstrategy => rw [hplain] at hstrategy; cases hstrategy
    | _ => exact ⟨rfl, rfl⟩
  next strategy hstrategy =>
    rcases hrun.of_bind with ⟨_, w₁, hcheck, hrest⟩ | ⟨e, hcheck, -⟩
    · obtain ⟨-, rfl⟩ := eq_of_runsTo_checkLive hfired hcheck
      obtain ⟨rfl, rfl⟩ := eq_of_runsTo_usableSnapshot hfired hrest
      refine ⟨congrArg Except.ok ?_, rfl⟩
      cases h with
      | plain hplain => rw [hstrategy] at hplain; cases hplain
      | missing hnone => rw [hnone, Option.filter_none]
      | unreadable hsome hread => rw [hsome, Option.filter_some, hread]; rfl
      | resumed _ hsome hread => rw [hsome, Option.filter_some, hread]; rfl
    · cases (eq_of_runsTo_checkLive hfired hcheck).1

/-- The stream is read from the snapshot on. -/
theorem StartsFrom.eq_of_runsTo_readStream (h : w.StartsFrom s (s.keyOf id) snapshot state)
    {r : Except Error (LoadedStream ε)} (hfired : w.fired i = false)
    (hrun : RunsTo (Answers s i) (s.readStream id) w r w') :
    r = s.streamFrom id snapshot (w.storage.events.load (s.keyOf id)
      ((snapshot.map (·.sequence)).getD 0 + 1)) ∧ w' = w := by
  unfold AggregateStore.streamFrom
  rcases hrun.of_bind with ⟨_, w₁, hstart, hafter⟩ | ⟨e, hstart, -⟩
  case inr => cases (h.eq_of_runsTo hfired hstart).1
  obtain ⟨heq, rfl⟩ := h.eq_of_runsTo hfired hstart
  obtain rfl := Except.ok.inj heq
  rcases hafter.of_bind with ⟨_, w₂, hcheck, hread⟩ | ⟨e, hcheck, -⟩
  case inr => cases (eq_of_runsTo_checkLive hfired hcheck).1
  obtain ⟨-, rfl⟩ := eq_of_runsTo_checkLive hfired hcheck
  dsimp only at hread
  split at hread
  next hfull =>
    cases hread
    exact ⟨(if_pos hfull).symm, rfl⟩
  next hroom =>
    rw [if_neg hroom]
    rcases hread.of_bind with ⟨_, w₃, hload, hend⟩ | ⟨e, hload, -⟩
    case inr => cases (eq_of_runsTo_load hfired hload).1
    obtain ⟨heq, rfl⟩ := eq_of_runsTo_load hfired hload
    obtain rfl := Except.ok.inj heq
    rcases hend.of_bind with ⟨forms, w₄, hforms, hdone⟩ | ⟨e, hforms, rfl⟩
    · obtain ⟨hforms, rfl⟩ := hforms.of_ofExcept
      cases hdone
      rw [← hforms]
      exact ⟨rfl, rfl⟩
    · obtain ⟨hforms, rfl⟩ := hforms.of_ofExcept
      rw [← hforms]
      exact ⟨rfl, rfl⟩

/-- A stream that was read is replayed onto the state that it starts from. -/
theorem StartsFrom.eq_of_runsTo_rebuild (h : w.StartsFrom s key snapshot state)
    {stream : LoadedStream ε} (hstream : stream.snapshot = snapshot) {r : Except Error (Root σ ε)}
    (hrun : RunsTo (Answers s i) (s.rebuild id stream) w r w') :
    r = s.replayed id state stream ∧ w' = w := by
  have hstart : ∀ {r w'}, RunsTo (Answers s i) (s.startingState id stream) w r w' →
      r = .ok state ∧ w' = w := by
    intro r w' hrun
    unfold AggregateStore.startingState at hrun
    rw [hstream] at hrun
    cases h with
    | resumed _ _ hread =>
      cases hrun with
      | waiting hanswer hend =>
        obtain ⟨rfl, rfl⟩ := hanswer
        rw [hread] at hend
        cases hend
        exact ⟨rfl, rfl⟩
    | _ =>
      cases hrun
      exact ⟨rfl, rfl⟩
  rcases hrun.of_bind with ⟨start, w₁, hfirst, hrest⟩ | ⟨e, hfirst, -⟩
  case inr => cases (hstart hfirst).1
  obtain ⟨heq, rfl⟩ := hstart hfirst
  rw [AggregateStore.replayed, ← Except.ok.inj heq]
  rcases hrest.of_bind with ⟨last, w₂, hreplay, hdone⟩ | ⟨e, hreplay, rfl⟩
  · obtain ⟨hlast, rfl⟩ := hreplay.of_ofExcept
    cases hdone
    rw [← hlast]
    exact ⟨rfl, rfl⟩
  · obtain ⟨hlast, rfl⟩ := hreplay.of_ofExcept
    rw [← hlast]
    exact ⟨rfl, rfl⟩

/-- Without a cache, a stream is read and replayed. -/
theorem StartsFrom.eq_of_runsTo_loadRoot (h : w.StartsFrom s (s.keyOf id) snapshot state)
    (hcaching : s.caching = false) (hfired : w.fired i = false)
    {r : Except Error (Root σ ε × LoadedStream ε)}
    (hrun : RunsTo (Answers s i) (s.loadRoot id) w r w') :
    r = (s.streamFrom id snapshot (w.storage.events.load (s.keyOf id)
      ((snapshot.map (·.sequence)).getD 0 + 1))).bind (fun stream =>
        (s.replayed id state stream).map fun root => (root, stream)) ∧ w' = w := by
  have hloadRoot : s.loadRoot id = (s.readStream id).bind fun stream =>
      (s.rebuild id stream).bind fun root => .done (root, stream) := by
    simp [AggregateStore.loadRoot, AggregateStore.cachedStream, hcaching, AggregateStore.readRoot]
  rw [hloadRoot] at hrun
  rcases hrun.of_bind with ⟨stream, w₁, hread, hrest⟩ | ⟨e, hread, rfl⟩
  · obtain ⟨heq, rfl⟩ := h.eq_of_runsTo_readStream hfired hread
    have hsnapshot := AggregateStore.snapshot_of_streamFrom heq.symm
    rw [← heq, Except.bind]
    rcases hrest.of_bind with ⟨root, w₂, hrebuild, hend⟩ | ⟨e, hrebuild, rfl⟩
    · obtain ⟨hroot, rfl⟩ := h.eq_of_runsTo_rebuild hsnapshot hrebuild
      cases hend
      rw [← hroot]
      exact ⟨rfl, rfl⟩
    · obtain ⟨hroot, rfl⟩ := h.eq_of_runsTo_rebuild hsnapshot hrebuild
      rw [← hroot]
      exact ⟨rfl, rfl⟩
  · obtain ⟨heq, rfl⟩ := h.eq_of_runsTo_readStream hfired hread
    rw [← heq]
    exact ⟨rfl, rfl⟩

/-- **A load without a cache replays the events after the snapshot.** -/
theorem yields_rebuiltFrom (hcaching : s.caching = false) (hfired : w.fired i = false)
    (h : w.StartsFrom s (s.keyOf id) snapshot state) :
    w.Yields s i id (s.rebuiltFrom id snapshot state (w.storage.events.load (s.keyOf id)
      ((snapshot.map (·.sequence)).getD 0 + 1))) := by
  have hresult : ∀ r w', RunsTo (Answers s i) (s.load id) w r w' →
      r = s.rebuiltFrom id snapshot state (w.storage.events.load (s.keyOf id)
        ((snapshot.map (·.sequence)).getD 0 + 1)) := by
    intro r w' hrun
    rw [AggregateStore.rebuiltFrom_eq]
    rcases hrun.of_bind with ⟨p, w₁, hload, hend⟩ | ⟨e, hload, rfl⟩
    · rw [← (h.eq_of_runsTo_loadRoot hcaching hfired hload).1]
      cases hend
      rfl
    · rw [← (h.eq_of_runsTo_loadRoot hcaching hfired hload).1]
      rfl
  let decline : Root σ ε → Except Error (Root σ ε) := fun _ => .error .cancelled
  have hdecline : ∀ root decided, decline root = .ok decided → decided.id = root.id := by
    rintro root decided ⟨⟩
  have hends : ∀ (w : Depot) (q : StoreRequest σ ε), q.IsReading → ∃ a w', w.Answers s i q a w' :=
    fun w q _ => ⟨_, _, w.answers_reply s hdecline i q⟩
  obtain ⟨r, w', hrun⟩ := (AggregateStore.asks_load id).exists_runsTo hends w
  exact ⟨⟨w', hresult r w' hrun ▸ hrun⟩, hresult⟩

/-- **Without a snapshot and events, a load without a cache finds a new aggregate.** -/
theorem yields_initial (s : AggregateStore σ ε) {id : AggregateId} (hcaching : s.caching = false)
    (hfired : w.fired i = false) (hshelf : w.storage.shelf.load (s.keyOf id) = none)
    (hevents : (w.storage.events.stream (s.keyOf id)).values = []) :
    w.Yields s i id (.ok ⟨id, s.aggregate.initial, 0, []⟩) := by
  have hnone : w.storage.events.load (s.keyOf id) 1 = [] := by
    rw [EventLog.load, OrderedMap.atLeast, List.map_eq_nil_iff.1 hevents]
    rfl
  have hyields := yields_rebuiltFrom hcaching hfired (.missing hshelf)
  rw [Option.map_none, Option.getD_none, hnone] at hyields
  exact hyields

end Depot

end EventLedger
