import EventLedger.Proofs.Call.Trace
import EventLedger.Store

/-!
# What a store asks

The parts of loading and updating by the requests that they make and the results that they end with,
whatever the answers.

## Main definitions

* `StoreRequest.IsReading` — the requests that loading makes.
* `StoreRequest.IsFetching` — those of them that reading a stream from storage makes.
* `StoreRequest.IsLooking` — those of them that only look at stored events and at the token.
* `StoreRequest.KeepsNothing` — the requests that bring no stream into the cache.
* `StoreRequest.IsIdle` — the requests that neither store nor remove anything.
* `StoreRequest.LeavesEvents` — the requests that neither store nor remove events.
* `StoreRequest.IsQuiet` — those of them that do not ask for a decision.
* `Root.IsFresh root id stream` — the root as it was rebuilt from a stream.

## Main results

* `AggregateStore.asks_load` — **loading makes reading requests only.**
* `AggregateStore.ends_loadRoot` — a root that is loaded carries no event.
* `AggregateStore.ends_redelivered` — a batch that is found carries the source.
-/

namespace EventLedger

open Call (Asks Ends RunsTo Traces)

variable {σ ε : Type}

/-- The requests that loading makes. -/
def StoreRequest.IsReading : StoreRequest σ ε → Prop
  | .storage (.load ..) => True
  | .storage (.loadSnapshot _) => True
  | .cached _ => True
  | .generation _ => True
  | .keep .. => True
  | .readState _ => True
  | .isCancelled => True
  | _ => False

/-- The requests that reading a stream from storage makes. -/
def StoreRequest.IsFetching : StoreRequest σ ε → Prop
  | .storage (.load ..) => True
  | .storage (.loadSnapshot _) => True
  | .readState _ => True
  | .isCancelled => True
  | _ => False

/-- The requests that look at stored events and at the token. -/
def StoreRequest.IsLooking : StoreRequest σ ε → Prop
  | .storage (.load ..) => True
  | .isCancelled => True
  | _ => False

/-- The requests that bring no stream into the cache. -/
def StoreRequest.KeepsNothing : StoreRequest σ ε → Prop
  | .keep .. => False
  | _ => True

/-- The requests that neither store nor remove anything. -/
def StoreRequest.IsIdle : StoreRequest σ ε → Prop
  | .storage (.commit ..) => False
  | .storage (.delete _) => False
  | .storage (.storeSnapshot _) => False
  | .storage (.deleteSnapshots _) => False
  | _ => True

/-- The requests that neither store nor remove events. -/
def StoreRequest.LeavesEvents : StoreRequest σ ε → Prop
  | .storage (.commit ..) => False
  | .storage (.delete _) => False
  | _ => True

/-- The requests that neither store nor remove events nor ask for a decision. -/
def StoreRequest.IsQuiet : StoreRequest σ ε → Prop
  | .storage (.commit ..) => False
  | .storage (.delete _) => False
  | .decide _ => False
  | _ => True

theorem StoreRequest.IsLooking.isFetching {q : StoreRequest σ ε} (h : q.IsLooking) :
    q.IsFetching := by
  cases q with
  | storage q =>
    cases q with
    | load => trivial
    | _ => exact h.elim
  | isCancelled => trivial
  | _ => exact h.elim

theorem StoreRequest.IsFetching.isReading {q : StoreRequest σ ε} (h : q.IsFetching) :
    q.IsReading := by
  cases q with
  | storage q =>
    cases q with
    | load => trivial
    | loadSnapshot => trivial
    | _ => exact h.elim
  | readState => trivial
  | isCancelled => trivial
  | _ => exact h.elim

theorem StoreRequest.IsFetching.keepsNothing {q : StoreRequest σ ε} (h : q.IsFetching) :
    q.KeepsNothing := by
  cases q with
  | keep => exact h.elim
  | _ => trivial

theorem StoreRequest.IsLooking.isReading {q : StoreRequest σ ε} (h : q.IsLooking) :
    q.IsReading :=
  h.isFetching.isReading

theorem StoreRequest.IsReading.isIdle {q : StoreRequest σ ε} (h : q.IsReading) : q.IsIdle := by
  cases q with
  | storage q => cases q <;> trivial
  | _ => trivial

theorem StoreRequest.IsIdle.leavesEvents {q : StoreRequest σ ε} (h : q.IsIdle) :
    q.LeavesEvents := by
  cases q with
  | storage q => cases q <;> trivial
  | _ => trivial

theorem StoreRequest.IsReading.isQuiet {q : StoreRequest σ ε} (h : q.IsReading) : q.IsQuiet := by
  cases q with
  | storage q =>
    cases q with
    | load => trivial
    | loadSnapshot => trivial
    | _ => exact h.elim
  | decide => exact h.elim
  | _ => trivial

theorem StoreRequest.IsQuiet.leavesEvents {q : StoreRequest σ ε} (h : q.IsQuiet) :
    q.LeavesEvents := by
  cases q with
  | storage q =>
    cases q with
    | commit => exact h.elim
    | delete => exact h.elim
    | _ => trivial
  | _ => trivial

/-- The root is that of an aggregate as a stream describes it: at its version, and without events to
commit. -/
structure Root.IsFresh (root : Root σ ε) (id : AggregateId) (stream : LoadedStream ε) : Prop where
  id : root.id = id
  version : root.version = stream.version
  uncommitted : root.uncommitted = []

/-! ### Exchanges of a request -/

namespace StoreCall

variable {t : List (Exchange (storeInterface σ ε))}

theorem traces_checkLive_iff {r : Except Error Unit} :
    Traces (checkLive : StoreCall σ ε Unit) t r ↔
      ∃ cancelled : Bool, t = [⟨.isCancelled, cancelled⟩] ∧
        r = if cancelled then .error .cancelled else .ok () := by
  refine Call.traces_waiting_iff.trans (exists_congr fun cancelled => ?_)
  cases cancelled with
  | true =>
    constructor
    · rintro ⟨_, rfl, ⟨⟩⟩
      exact ⟨rfl, rfl⟩
    · rintro ⟨rfl, rfl⟩
      exact ⟨[], rfl, .failed _⟩
  | false =>
    constructor
    · rintro ⟨_, rfl, ⟨⟩⟩
      exact ⟨rfl, rfl⟩
    · rintro ⟨rfl, rfl⟩
      exact ⟨[], rfl, .done _⟩

theorem traces_storage_iff {q : StorageRequest} {r : Except Error q.Result} :
    Traces (storage q : StoreCall σ ε q.Result) t r ↔ t = [⟨.storage q, r⟩] := by
  refine Call.traces_waiting_iff.trans ?_
  constructor
  · rintro ⟨a, rest, rfl, h⟩
    obtain ⟨rfl, rfl⟩ := Call.traces_ofExcept_iff.1 h
    rfl
  · rintro rfl
    exact ⟨r, [], rfl, Call.traces_ofExcept_iff.2 ⟨rfl, rfl⟩⟩

/-- A run of a request to the storage ends with the storage's answer. -/
theorem serves_of_storage {W : Type} {serves : W → (q : StoreRequest σ ε) → q.Answer → W → Prop}
    {w w' : W} {q : StorageRequest} {r : Except Error q.Result}
    (hrun : RunsTo serves (storage q : StoreCall σ ε q.Result) w r w') :
    serves w (.storage q) r w' := by
  obtain ⟨a, w₁, ha, hrest⟩ := Call.RunsTo.of_ask_bind hrun
  obtain ⟨rfl, rfl⟩ := hrest.of_ofExcept
  exact ha

/-- A caller that has not cancelled passes. -/
theorem eq_of_runsTo_checkLive {W : Type}
    {serves : W → (q : StoreRequest σ ε) → q.Answer → W → Prop} {w w' : W} {r : Except Error Unit}
    (hlive : ∀ {cancelled : Bool} {w' : W}, serves w .isCancelled cancelled w' →
      cancelled = false ∧ w' = w)
    (hrun : RunsTo serves (checkLive : StoreCall σ ε Unit) w r w') : r = .ok () ∧ w' = w := by
  obtain ⟨cancelled, w₁, ha, hrest⟩ := Call.RunsTo.of_ask_bind hrun
  obtain ⟨rfl, rfl⟩ := hlive ha
  cases hrest
  exact ⟨rfl, rfl⟩

end StoreCall

/-! ### What loading asks -/

namespace AggregateStore

open StoreRequest

variable {s : AggregateStore σ ε} {P : StoreRequest σ ε → Prop}

theorem asks_checkLive : Asks IsLooking (StoreCall.checkLive : StoreCall σ ε Unit) :=
  ⟨trivial, fun a => by cases a <;> trivial⟩

theorem asks_usableSnapshot (key : StreamKey) :
    Asks IsFetching (usableSnapshot key : StoreCall σ ε (Option Snapshot)) := by
  refine ⟨trivial, ?_⟩
  intro a
  match a with
  | .error e => cases e <;> trivial
  | .ok none => trivial
  | .ok (some snapshot) => exact ⟨trivial, fun a => by cases a <;> trivial⟩

theorem asks_startingSnapshot (key : StreamKey) : Asks IsFetching (s.startingSnapshot key) := by
  unfold startingSnapshot
  split
  · trivial
  · exact (asks_checkLive.imp fun _ => IsLooking.isFetching).bind fun _ => asks_usableSnapshot key

theorem asks_readStream (id : AggregateId) : Asks IsFetching (s.readStream id) := by
  refine (asks_startingSnapshot _).bind fun snapshot => ?_
  refine (asks_checkLive.imp fun _ => IsLooking.isFetching).bind fun _ => ?_
  dsimp only
  split
  · trivial
  · exact Asks.bind ⟨trivial, fun a => .ofExcept a⟩ fun _ => (Asks.ofExcept _).bind fun _ => trivial

theorem asks_rebuild (hread : ∀ state, P (.readState state)) (id : AggregateId)
    (stream : LoadedStream ε) : Asks P (s.rebuild id stream) := by
  refine Asks.bind ?_ fun start => Asks.bind (.ofExcept _) fun state => trivial
  unfold startingState
  split
  · trivial
  · exact ⟨hread _, fun a => by cases a <;> trivial⟩

theorem asks_readRoot (id : AggregateId) : Asks IsReading (s.readRoot id) := by
  have hread : Asks IsReading (s.readStream id) := (asks_readStream id).imp fun _ => (·.isReading)
  have hrebuild : ∀ stream, Asks IsReading (s.rebuild id stream) :=
    asks_rebuild (fun _ => trivial) id
  unfold readRoot
  split
  · exact ⟨trivial, fun generation => hread.bind fun stream =>
      (hrebuild stream).bind fun root => ⟨trivial, fun _ => trivial⟩⟩
  · exact hread.bind fun stream => (hrebuild stream).bind fun root => trivial

/-- **Loading makes reading requests only.** -/
theorem asks_load (id : AggregateId) : Asks IsReading (s.load id) := by
  refine Asks.bind (Asks.bind ?_ fun cached => ?_) fun r => trivial
  · unfold cachedStream
    split
    · exact ⟨trivial, fun _ => trivial⟩
    · trivial
  · split
    · exact (asks_rebuild (fun _ => trivial) id _).bind fun root => trivial
    · exact asks_readRoot id

/-- **Loading a root makes reading requests only.** -/
theorem asks_loadRoot (id : AggregateId) : Asks IsReading (s.loadRoot id) :=
  (asks_load id).of_bind

/-! ### What updating asks -/

theorem asks_pause {d : Duration} (hpause : P (.pause d)) :
    Asks P (StoreCall.pause d : StoreCall σ ε Unit) :=
  ⟨hpause, fun a => by cases a <;> trivial⟩

theorem asks_invalidate {id : AggregateId} (hinvalidate : P (.invalidate (s.keyOf id))) :
    Asks P (s.invalidate id) := by
  unfold invalidate
  split
  · exact ⟨hinvalidate, fun _ => trivial⟩
  · trivial

theorem asks_lastBatch (key : StreamKey) (version window : Nat) :
    Asks IsLooking (lastBatch key version window : StoreCall σ ε (List CommittedEvent)) := by
  induction window using lastBatch.induct key version with
  | case1 window ih =>
    rw [lastBatch]
    refine asks_checkLive.bind fun _ => ?_
    refine Asks.bind ⟨trivial, fun a => .ofExcept a⟩ ?_
    intro events
    dsimp only
    split
    · trivial
    next h => exact ih events h

/-- Looking for the batch of a source only looks at stored events and at the token. -/
theorem asks_redelivered (id : AggregateId) (stream : LoadedStream ε) (source : Option String) :
    Asks IsLooking (s.redelivered id stream source) := by
  cases source with
  | none => trivial
  | some source =>
    change Asks IsLooking (s.batchOfSource id stream source)
    unfold batchOfSource
    split
    · trivial
    · dsimp only
      split
      · trivial
      · split
        · trivial
        · refine Asks.bind (asks_lastBatch _ _ _) ?_
          intro batch
          trivial

theorem asks_providedEntries (hfresh : P .freshId) (context : EventContext) :
    ∀ providers : List MetadataProvider,
      Asks P (providedEntries context providers : StoreCall σ ε (List (String × String)))
  | [] => trivial
  | _ :: rest =>
    ⟨hfresh, fun _ => (asks_providedEntries hfresh context rest).bind fun _ => trivial⟩

/-- Preparing events only asks for identifiers. -/
theorem asks_pendingEvents (hfresh : P .freshId) (key : StreamKey) (timestamp : String) (b : Uuid)
    (source : Option String) : ∀ (version : Nat) (es : List ε),
    Asks P (s.pendingEvents key timestamp b source version es)
  | _, [] => trivial
  | version, e :: rest => by
    have hfirst : Asks P (s.pendingEvent key (version + 1) timestamp b source e) := by
      unfold pendingEvent
      dsimp only
      split
      · trivial
      · exact (asks_providedEntries hfresh _ _).bind fun _ => (Asks.ofExcept _).bind fun _ => trivial
    unfold pendingEvents
    split
    · trivial
    · exact hfirst.bind fun _ =>
        (asks_pendingEvents hfresh key timestamp b source (version + 1) rest).bind fun _ => trivial

/-- Preparing events changes nothing if giving out an identifier changes nothing. -/
theorem eq_of_runsTo_pendingEvents {W : Type}
    {serves : W → (q : StoreRequest σ ε) → q.Answer → W → Prop} {w w' : W} {key : StreamKey}
    {timestamp : String} {b : Uuid} {source : Option String} {version : Nat} {xs : List ε}
    {r : Except Error (List PendingEvent)}
    (hfresh : ∀ {w w' : W} {b : Uuid}, serves w .freshId b w' → w' = w)
    (hrun : RunsTo serves (s.pendingEvents key timestamp b source version xs) w r w') : w' = w := by
  have hasks := asks_pendingEvents (s := s) (P := (· = .freshId)) rfl key timestamp b source version
    xs
  refine hasks.keeps_of_runsTo (Q := (· = w)) ?_ hrun rfl
  rintro w₁ q a w₂ rfl ha rfl
  exact hfresh ha

/-- Offering a snapshot asks for chance and the time, and brings a snapshot of that version. -/
theorem asks_offerSnapshot {root : Root σ ε} {version last : Nat} (hroll : P .roll) (hnow : P .now)
    (hstore : ∀ snapshot, snapshot.key = s.keyOf root.id → snapshot.sequence = version →
      P (.storage (.storeSnapshot snapshot))) :
    Asks P (s.offerSnapshot root version last) := by
  unfold offerSnapshot
  split
  · trivial
  next strategy _ =>
    have hdue : Asks P (snapshotDue strategy version last : StoreCall σ ε Bool) := by
      unfold snapshotDue
      split
      · exact ⟨hroll, fun _ => trivial⟩
      · trivial
    refine hdue.bind fun due => ?_
    split
    · split
      · trivial
      · exact ⟨hnow, fun _ => ⟨hstore _ rfl rfl, fun _ => trivial⟩⟩
    · trivial

/-- What follows a commit asks to drop the cached stream, and then as offering a snapshot does. -/
theorem asks_afterCommit {id : AggregateId} {root : Root σ ε} {version last : Nat}
    {es : List CommittedEvent} (hinvalidate : P (.invalidate (s.keyOf id))) (hroll : P .roll)
    (hnow : P .now)
    (hstore : ∀ snapshot, snapshot.key = s.keyOf root.id → snapshot.sequence = version →
      P (.storage (.storeSnapshot snapshot))) :
    Asks P ((s.invalidate id).bind fun _ =>
      (s.offerSnapshot root version last).bind fun _ => .done es) :=
  (asks_invalidate hinvalidate).bind fun _ =>
    (asks_offerSnapshot hroll hnow hstore).bind fun _ => trivial

/-! ### How the parts end -/

/-- A root that is rebuilt is the one that was asked for, at the version of its stream and without
events to commit. -/
theorem ends_rebuild (id : AggregateId) (stream : LoadedStream ε) :
    Ends (fun r => ∀ root, r = .ok root → root.IsFresh id stream) (s.rebuild id stream) := by
  have herror : ∀ (e : Error) (root : Root σ ε), Except.error e = .ok root →
      root.IsFresh id stream := by
    rintro e root ⟨⟩
  refine Ends.bind_of_forall (fun start => ?_) herror
  refine Ends.bind_of_forall (fun state => ?_) herror
  rintro root ⟨⟩
  exact ⟨rfl, rfl, rfl⟩

/-- **A root that is loaded is fresh.** -/
theorem ends_loadRoot (id : AggregateId) :
    Ends (fun r => ∀ root stream, r = .ok (root, stream) → root.IsFresh id stream)
      (s.loadRoot id) := by
  have herror : ∀ (e : Error) (root : Root σ ε) (stream : LoadedStream ε),
      Except.error e = .ok (root, stream) → root.IsFresh id stream := by
    rintro e root stream ⟨⟩
  unfold loadRoot
  refine Ends.bind_of_forall (fun cached => ?_) herror
  -- the root is rebuilt, from the stream in the cache or from one that is read
  split
  next _ stream =>
    refine (ends_rebuild id stream).bind (fun root hroot => ?_) fun e _ => herror e
    rintro root' stream' ⟨⟩
    exact hroot root rfl
  next =>
    unfold readRoot
    split
    · refine Ends.bind_of_forall (fun generation => ?_) herror
      refine Ends.bind_of_forall (fun stream => ?_) herror
      refine (ends_rebuild id stream).bind (fun root hroot => ?_) fun e _ => herror e
      intro kept root' stream' h
      cases h
      exact hroot root rfl
    · refine Ends.bind_of_forall (fun stream => ?_) herror
      refine (ends_rebuild id stream).bind (fun root hroot => ?_) fun e _ => herror e
      rintro root' stream' ⟨⟩
      exact hroot root rfl

/-- A batch that is looked at for a source carries it. -/
theorem carries_of_batchIfCarried {source : String} {batch found : List CommittedEvent}
    (h : batchIfCarried source batch = some found) :
    ∃ t e, some source = some t ∧ found.getLast? = some e ∧ carries t e = true := by
  unfold batchIfCarried at h
  split at h
  next e he =>
    split at h
    next hcarries =>
      obtain rfl := Option.some.inj h
      exact ⟨source, e, rfl, he, hcarries⟩
    next => cases h
  next => cases h

/-- **A batch that is found carries the source.** -/
theorem ends_redelivered (id : AggregateId) (stream : LoadedStream ε) (source : Option String) :
    Ends (fun r => ∀ batch, r = .ok (some batch) →
      ∃ t e, source = some t ∧ batch.getLast? = some e ∧ carries t e = true)
      (s.redelivered id stream source) := by
  cases source with
  | none =>
    intro batch h
    cases h
  | some t =>
    change Ends _ (s.batchOfSource id stream t)
    unfold batchOfSource
    split
    · intro batch h
      cases h
    · dsimp only
      split
      · intro batch h
        exact carries_of_batchIfCarried (Except.ok.inj h)
      · split
        · intro batch h
          cases h
        · refine Ends.bind_of_forall (fun batch => ?_) ?_
          · intro found h
            exact carries_of_batchIfCarried (Except.ok.inj h)
          · rintro e batch ⟨⟩

theorem ends_invalidate (id : AggregateId) : Ends (fun r => r = .ok ()) (s.invalidate id) := by
  unfold invalidate
  split
  · exact fun _ => rfl
  · rfl

/-- A snapshot that cannot be written is no failure. -/
theorem ends_offerSnapshot (root : Root σ ε) (version last : Nat) :
    Ends (fun r => r = .ok ()) (s.offerSnapshot root version last) := by
  unfold offerSnapshot
  split
  · rfl
  next strategy _ =>
    have hdue : Ends (fun r => ∃ due, r = .ok due)
        (snapshotDue strategy version last : StoreCall σ ε Bool) := by
      unfold snapshotDue
      split
      · exact fun _ => ⟨_, rfl⟩
      · exact ⟨_, rfl⟩
    refine hdue.bind (fun due _ => ?_) fun _ ⟨_, h⟩ => by cases h
    split
    · split
      · rfl
      · exact fun _ _ => rfl
    · rfl

/-- What follows a commit ends with the events that were committed. -/
theorem ends_afterCommit (id : AggregateId) (root : Root σ ε) (version last : Nat)
    (es : List CommittedEvent) : Ends (fun r => r = .ok es) ((s.invalidate id).bind fun _ =>
      (s.offerSnapshot root version last).bind fun _ => .done es) := by
  refine (ends_invalidate id).bind (fun _ _ => ?_) fun _ he => by cases he
  exact (ends_offerSnapshot root version last).bind (fun _ _ => rfl) fun _ he => by cases he

end AggregateStore

end EventLedger
