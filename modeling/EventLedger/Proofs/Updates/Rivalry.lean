import EventLedger.Proofs.Reading.Replay
import EventLedger.Proofs.StreamCache
import EventLedger.Proofs.Updates.Provenance
import EventLedger.Proofs.Updates.Retries
import EventLedger.Proofs.Updates.Rival

/-!
# Attempts behind a rival writer

A store whose storage lies behind a rival writer, and a decision that emits the same number of
events on every root.  As long as the stream can be read and a cached stream is not behind it, an
attempt loads the last version, commits right after it, and leaves one batch behind, its own or the
rival's.

## Main definitions

* `Rivalry`, `Rivalry.Serves` — the surroundings of the store.
* `AggregateStore.Steady s decide k` — on every root the decision emits `k` events, which can be
  stored.
* `AggregateStore.Calm s id d` — what the storage holds of the aggregate can be read.
* `AggregateStore.Contested s id w` — so it is, and the cache holds no older stream.
* `Rivalry.Strikes s id k d r d'` — what an attempt comes to that ends with `r`.

## Main results

* `AggregateStore.ends_pendingEvents_ok` — events that can be written are prepared.
* `Rivalry.root_of_loadRoot` — a load finds the last version, in the cache or in storage.
* `Rivalry.strikes_of_attempt` — **an attempt asks for one commit and leaves one batch behind.**
-/

namespace EventLedger

open Call (Asks Ends RunsTo)

variable {σ ε : Type}

/-! ### The surroundings of a store behind the rival -/

/-- A storage behind a rival writer, and the cache of a store. -/
structure Rivalry (ε : Type) where
  /-- The storage and the rival. -/
  doubles : Simulation.Doubles
  /-- The cache. -/
  cache : StreamCache (LoadedStream ε)

namespace Rivalry

/-- How a request of the store is answered whose caller decides by `decide` and never cancels.  The
clock and chance may answer as they like, and an identifier that is given out is not the one that
the rival draws next. -/
def Serves (s : AggregateStore σ ε) (decide : Root σ ε → Except Error (Root σ ε)) (w : Rivalry ε) :
    (q : StoreRequest σ ε) → q.Answer → Rivalry ε → Prop
  | .storage q, a, w' => w.doubles.behindRival false q = (a, w'.doubles) ∧ w'.cache = w.cache
  | .cached key, found, w' =>
    ∃ now, w.cache.get key now = (found, w'.cache) ∧ w'.doubles = w.doubles
  | .generation key, g, w' => g = w.cache.generation key ∧ w' = w
  | .keep key g stream, kept, w' =>
    ∃ now, w.cache.insert key g stream now = (kept, w'.cache) ∧ w'.doubles = w.doubles
  | .invalidate key, _, w' => w' = ⟨w.doubles, w.cache.invalidate key⟩
  | .readState state, r, w' => r = s.codec.readState state ∧ w' = w
  | .isCancelled, cancelled, w' => cancelled = false ∧ w' = w
  | .pause _, cancelled, w' => cancelled = false ∧ w' = w
  | .freshId, b, w' => b ≠ w.doubles.fresh.1 ∧ w' = w
  | .decide root, r, w' => r = decide root ∧ w' = w
  | .now, _, w' => w' = w
  | .roll, _, w' => w' = w

variable {s : AggregateStore σ ε} {decide : Root σ ε → Except Error (Root σ ε)}
  {w w' : Rivalry ε} {q : StoreRequest σ ε} {a : q.Answer}

/-- Every request has an answer. -/
theorem exists_serves (s : AggregateStore σ ε) (decide : Root σ ε → Except Error (Root σ ε))
    (w : Rivalry ε) (q : StoreRequest σ ε) : ∃ a w', Serves s decide w q a w' := by
  cases q with
  | storage q => exact ⟨_, ⟨_, w.cache⟩, rfl, rfl⟩
  | cached key => exact ⟨_, ⟨w.doubles, _⟩, default, rfl, rfl⟩
  | generation key => exact ⟨_, w, rfl, rfl⟩
  | keep key g stream => exact ⟨_, ⟨w.doubles, _⟩, default, rfl, rfl⟩
  | invalidate key => exact ⟨(), _, rfl⟩
  | readState state => exact ⟨_, w, rfl, rfl⟩
  | isCancelled => exact ⟨_, w, rfl, rfl⟩
  | pause d => exact ⟨_, w, rfl, rfl⟩
  | now => exact ⟨(default : Instant), w, rfl⟩
  | freshId =>
    by_cases h : Uuid.ofNat 0 = w.doubles.fresh.1
    · refine ⟨Uuid.ofNat 1, w, ?_, rfl⟩
      rw [← h]
      change Uuid.ofNat 1 ≠ Uuid.ofNat 0
      decide
    · exact ⟨_, w, h, rfl⟩
  | roll => exact ⟨.zero false, w, rfl⟩
  | decide root => exact ⟨_, w, rfl, rfl⟩

/-- Reading leaves the storage as it is. -/
theorem doubles_of_isReading (hq : q.IsReading) (h : Serves s decide w q a w') :
    w'.doubles = w.doubles := by
  cases q with
  | storage q =>
    cases q with
    | load key start => exact (congrArg Prod.snd h.1).symm
    | loadSnapshot key => exact (congrArg Prod.snd h.1).symm
    | _ => exact hq.elim
  | cached key =>
    obtain ⟨now, -, hd⟩ := h
    exact hd
  | keep key g stream =>
    obtain ⟨now, -, hd⟩ := h
    exact hd
  | generation key => rw [h.2]
  | readState state => rw [h.2]
  | isCancelled => rw [h.2]
  | _ => exact hq.elim

/-- Requests that leave events leave them, and the count of commits. -/
theorem events_of_leavesEvents (hq : q.LeavesEvents) (h : Serves s decide w q a w') :
    w'.doubles.memory.events = w.doubles.memory.events ∧
      w'.doubles.attempts = w.doubles.attempts := by
  cases q with
  | storage q =>
    have hanswer := h.1
    rw [Simulation.Doubles.behindRival_eq (by rintro key b ps rfl; exact hq)] at hanswer
    have hdoubles : _ = w'.doubles := congrArg Prod.snd hanswer
    rw [← hdoubles]
    cases q with
    | commit => exact hq.elim
    | delete => exact hq.elim
    | _ => exact ⟨rfl, rfl⟩
  | cached key =>
    obtain ⟨now, -, hd⟩ := h
    rw [hd]
    exact ⟨rfl, rfl⟩
  | keep key g stream =>
    obtain ⟨now, -, hd⟩ := h
    rw [hd]
    exact ⟨rfl, rfl⟩
  | invalidate key =>
    obtain rfl := h
    exact ⟨rfl, rfl⟩
  | now =>
    obtain rfl := h
    exact ⟨rfl, rfl⟩
  | roll =>
    obtain rfl := h
    exact ⟨rfl, rfl⟩
  | _ =>
    rw [h.2]
    exact ⟨rfl, rfl⟩

/-- A call that only reads leaves the storage as it is. -/
theorem doubles_of_asks {α : Type} {c : StoreCall σ ε α} {r : Except Error α}
    (hc : Asks StoreRequest.IsReading c) (hrun : RunsTo (Serves s decide) c w r w') :
    w'.doubles = w.doubles :=
  hc.keeps_of_runsTo (Q := fun w₁ => w₁.doubles = w.doubles)
    (fun hq ha hd => (doubles_of_isReading hq ha).trans hd) hrun rfl

/-- A call that leaves events leaves them, and the count of commits. -/
theorem events_of_asks {α : Type} {c : StoreCall σ ε α} {r : Except Error α}
    (hc : Asks StoreRequest.LeavesEvents c) (hrun : RunsTo (Serves s decide) c w r w') :
    w'.doubles.memory.events = w.doubles.memory.events ∧
      w'.doubles.attempts = w.doubles.attempts := by
  refine hc.keeps_of_runsTo (Q := fun w₁ => w₁.doubles.memory.events = w.doubles.memory.events ∧
    w₁.doubles.attempts = w.doubles.attempts) (fun hq ha hQ => ?_) hrun ⟨rfl, rfl⟩
  obtain ⟨hevents, hattempts⟩ := events_of_leavesEvents hq ha
  exact ⟨hevents.trans hQ.1, hattempts.trans hQ.2⟩

/-- The run of a commit ends as the storage behind the rival answers. -/
theorem eq_of_commit {key : StreamKey} {b : Uuid} {ps : List PendingEvent}
    {r r' : Except Error (List CommittedEvent)} {d : Simulation.Doubles}
    (hd : w.doubles.behindRival false (.commit key b ps) = (r, d))
    (hrun : RunsTo (Serves s decide) (StoreCall.storage (.commit key b ps)) w r' w') :
    r' = r ∧ w'.doubles = d := by
  have hanswer := hd.symm.trans (StoreCall.serves_of_storage hrun).1
  exact ⟨(congrArg Prod.fst hanswer).symm, (congrArg Prod.snd hanswer).symm⟩

end Rivalry

/-! ### Steady decisions -/

namespace AggregateStore

variable {s : AggregateStore σ ε} {id : AggregateId}

/-- The stored event can be read, as events that all have handlers. -/
def Legible (s : AggregateStore σ ε) (e : CommittedEvent) : Prop :=
  ∃ ys, s.Upgrades e ys ∧ ∀ y ∈ ys, s.aggregate.handles (s.aggregate.typeOf y) = true

/-- The event can be written, and read again under its type. -/
def Storable (s : AggregateStore σ ε) (x : ε) : Prop :=
  ∃ payload, s.codec.writeEvent x = .ok payload ∧
    ∀ e : CommittedEvent, e.type = s.aggregate.typeOf x → e.payload = payload → s.Legible e

/-- On every root that carries no event, `decide` emits exactly `k` events, which can be stored, and
the providers agree on their entries. -/
structure Steady (s : AggregateStore σ ε) (decide : Root σ ε → Except Error (Root σ ε)) (k : Nat) :
    Prop where
  positive : 1 ≤ k
  emits : ∀ root, root.uncommitted = [] → ∃ decided, decide root = .ok decided ∧
    Root.Emits s.aggregate root decided ∧ decided.uncommitted.length = k ∧
      ∀ x ∈ decided.uncommitted, s.Storable x
  agreed : ∀ context, ¬Clash s.providers context

/-- What the storage holds of the aggregate can be read, and its snapshot is none of later events.
-/
structure Calm (s : AggregateStore σ ε) (id : AggregateId) (d : Simulation.Doubles) : Prop where
  coherent : d.memory.events.Coherent
  isStream : IsStream (s.keyOf id) (d.stored (s.keyOf id))
  legible : ∀ e ∈ (d.stored (s.keyOf id)), s.Legible e
  shelf : ∀ x, d.memory.shelf.load (s.keyOf id) = some x →
    x.sequence ≤ lastNumber (d.stored (s.keyOf id))

/-- The stream shows the stored events up to the last one, and can be rebuilt. -/
structure Shows (s : AggregateStore σ ε) (es : List CommittedEvent) (l : LoadedStream ε) :
    Prop where
  version : l.version = lastNumber es
  snapshot : ∀ x, l.snapshot = some x → ∃ state, s.codec.readState x.state = .ok state
  handled : ∀ y ∈ l.upgraded, s.aggregate.handles (s.aggregate.typeOf y) = true

/-- The storage is calm, and a cached stream is not behind it. -/
structure Contested (s : AggregateStore σ ε) (id : AggregateId) (w : Rivalry ε) : Prop where
  calm : s.Calm id w.doubles
  cached : s.caching = true → ∀ entry, w.cache.entry? (s.keyOf id) = some entry →
    s.Shows (w.doubles.stored (s.keyOf id)) entry.stream

theorem exists_currentForms (id : AggregateId) {es : List CommittedEvent}
    (h : ∀ e ∈ es, s.Legible e) :
    ∃ forms, s.currentForms id es = .ok forms ∧
      ∀ y ∈ forms, s.aggregate.handles (s.aggregate.typeOf y) = true := by
  induction es with
  | nil => exact ⟨[], rfl, by simp⟩
  | cons e es ih =>
    obtain ⟨⟨ys, hys, hall⟩, hes⟩ := List.forall_mem_cons.1 h
    obtain ⟨forms, hforms, hrest⟩ := ih hes
    refine ⟨ys ++ forms, ?_, List.forall_mem_append.2 ⟨hall, hrest⟩⟩
    rw [currentForms_cons, currentForm_eq_ok_iff.2 hys, hforms]
    rfl

theorem asks_readFrom (id : AggregateId) (snapshot : Option Snapshot) :
    Asks StoreRequest.IsLooking (s.readFrom id snapshot) := by
  refine asks_checkLive.bind fun _ => ?_
  split
  · trivial
  · exact Asks.bind ⟨trivial, fun a => .ofExcept a⟩ fun _ => .ofExcept _

/-! ### Preparing the events -/

theorem forall_of_writes {xs : List ε} {ps : List PendingEvent} {Q : PendingEvent → Prop}
    (h : List.Forall₂ s.Writes xs ps) (hQ : ∀ x ∈ xs, ∀ p, s.Writes x p → Q p) : ∀ p ∈ ps, Q p := by
  induction h with
  | nil => simp
  | cons hp _ ih =>
    obtain ⟨hx, hxs⟩ := List.forall_mem_cons.1 hQ
    exact List.forall_mem_cons.2 ⟨hx _ hp, ih hxs⟩

theorem ends_providedEntries (context : EventContext) : ∀ providers : List MetadataProvider,
    Ends (fun r => ∃ entries, r = .ok entries ∧
      entries.map (·.1) = providers.flatMap fun p => p.keys context)
      (providedEntries context providers : StoreCall σ ε (List (String × String)))
  | [] => ⟨[], rfl, rfl⟩
  | p :: rest => by
    intro (fresh : Uuid)
    refine (ends_providedEntries context rest).bind ?_ ?_
    · rintro more ⟨entries, hentries, hkeys⟩
      obtain rfl := Except.ok.inj hentries
      refine ⟨_, rfl, ?_⟩
      rw [List.map_append, p.map_entries, hkeys, List.flatMap_cons]
    · rintro e ⟨entries, hentries, -⟩
      cases hentries

/-- An event that can be written is prepared if the providers agree. -/
theorem ends_pendingEvent_ok {x : ε} {payload : Json}
    (hpayload : s.codec.writeEvent x = .ok payload)
    (hagreed : ∀ context, ¬Clash s.providers context) (key : StreamKey) (number : Nat)
    (timestamp : String) (b : Uuid) (source : Option String) :
    Ends (fun r => ∃ p, r = .ok p) (s.pendingEvent key number timestamp b source x) := by
  unfold pendingEvent
  simp only [hpayload]
  refine (ends_providedEntries _ s.providers).bind ?_ ?_
  · rintro more ⟨entries, hentries, hkeys⟩
    obtain rfl := Except.ok.inj hentries
    obtain ⟨hfree, hnodup⟩ := not_or.1 (hagreed ⟨key, s.aggregate.typeOf x, payload,
      reservedMetadata key number (s.aggregate.typeOf x) timestamp b source⟩)
    rw [not_not, ← hkeys] at hnodup
    have hmerge : ∀ e ∈ more, Metadata.isReserved e.1 = false ∧
        (reservedMetadata key number (s.aggregate.typeOf x) timestamp b source).get? e.1 =
          none := by
      intro e he
      have hreserved : Metadata.isReserved e.1 = false := by
        have hmem := List.mem_map_of_mem (f := (·.1)) he
        rw [hkeys] at hmem
        obtain ⟨p, hp, hkey⟩ := List.mem_flatMap.1 hmem
        by_contra hyes
        exact hfree ⟨p, hp, e.1, hkey, Bool.eq_true_of_not_eq_false hyes⟩
      refine ⟨hreserved, Option.eq_none_iff_forall_ne_some.2 fun v hv => ?_⟩
      rw [isReserved_of_reservedMetadata _ _ _ _ _ _ hv] at hreserved
      cases hreserved
    rw [Metadata.mergeAll_eq_ok hnodup hmerge]
    exact ⟨_, rfl⟩
  · rintro e ⟨entries, hentries, -⟩
    cases hentries

/-- **Events that can be written are prepared** as long as there are numbers for them. -/
theorem ends_pendingEvents_ok (hagreed : ∀ context, ¬Clash s.providers context) (key : StreamKey)
    (timestamp : String) (b : Uuid) (source : Option String) : ∀ {xs : List ε} {version : Nat},
    (∀ x ∈ xs, ∃ payload, s.codec.writeEvent x = .ok payload) →
    version + xs.length ≤ greatestSequence →
    Ends (fun r => ∃ ps, r = .ok ps) (s.pendingEvents key timestamp b source version xs)
  | [], _, _, _ => ⟨[], rfl⟩
  | x :: xs, version, hwritten, hroom => by
    obtain ⟨⟨payload, hpayload⟩, hwritten⟩ := List.forall_mem_cons.1 hwritten
    rw [List.length_cons] at hroom
    have herror : ∀ {α β : Type} (e : Error), (∃ a : α, Except.error e = .ok a) →
        ∃ b : β, Except.error e = .ok b := by
      rintro α β e ⟨a, ⟨⟩⟩
    unfold pendingEvents
    rw [if_neg (by omega)]
    refine (ends_pendingEvent_ok hpayload hagreed ..).bind (fun p _ => ?_) fun e => herror e
    refine (ends_pendingEvents_ok hagreed key timestamp b source hwritten (by omega)).bind
      (fun more _ => ⟨_, rfl⟩) fun e => herror e

end AggregateStore

/-! ### A load -/

namespace Rivalry

open StoreRequest

variable {s : AggregateStore σ ε} {id : AggregateId} {k : Nat}
  {decide : Root σ ε → Except Error (Root σ ε)} {w w' : Rivalry ε}

theorem eq_of_checkLive {r : Except Error Unit}
    (hrun : RunsTo (Serves s decide) StoreCall.checkLive w r w') : r = .ok () ∧ w' = w :=
  StoreCall.eq_of_runsTo_checkLive (fun ha => ha) hrun

/-- A snapshot to start from is the newest one, and can be read. -/
theorem found_of_startingSnapshot {key : StreamKey} {r : Except Error (Option Snapshot)}
    (hrun : RunsTo (Serves s decide) (s.startingSnapshot key) w r w') :
    ∃ found, r = .ok found ∧ ∀ x, found = some x → w.doubles.memory.shelf.load key = some x ∧
      ∃ state, s.codec.readState x.state = .ok state := by
  unfold AggregateStore.startingSnapshot at hrun
  split at hrun
  · cases hrun
    exact ⟨none, rfl, by simp⟩
  · obtain ⟨u, w₁, hlive, hload⟩ := hrun.of_bind_ok fun _ _ h => ⟨(), (eq_of_checkLive h).1⟩
    obtain rfl := (eq_of_checkLive hlive).2
    obtain ⟨answer, w₂, ⟨hanswer, -⟩, hread⟩ := RunsTo.of_ask_bind hload
    obtain rfl : Except.ok (w₁.doubles.memory.shelf.load key) = answer :=
      congrArg Prod.fst hanswer
    cases hfound : w₁.doubles.memory.shelf.load key with
    | none =>
      rw [hfound] at hread
      cases hread
      exact ⟨none, rfl, by simp⟩
    | some x =>
      rw [hfound] at hread
      obtain ⟨state, w₃, ⟨hstate, -⟩, hend⟩ := RunsTo.of_ask_bind hread
      cases state with
      | error reason =>
        cases hend
        exact ⟨none, rfl, by simp⟩
      | ok state =>
        cases hend
        refine ⟨some x, rfl, ?_⟩
        rintro _ ⟨⟩
        exact ⟨rfl, state, hstate.symm⟩

/-- **A stream that is read from a calm storage shows all events.** -/
theorem shows_of_readStream {r : Except Error (LoadedStream ε)}
    (h : s.Calm id w.doubles)
    (hroom : lastNumber (w.doubles.stored (s.keyOf id)) < greatestSequence)
    (hrun : RunsTo (Serves s decide) (s.readStream id) w r w') :
    ∃ stream, r = .ok stream ∧ s.Shows (w.doubles.stored (s.keyOf id)) stream := by
  rw [AggregateStore.readStream_eq] at hrun
  obtain ⟨found, w₁, hstart, hread⟩ := hrun.of_bind_ok fun _ _ hstart => by
    obtain ⟨found, hfound, -⟩ := found_of_startingSnapshot hstart
    exact ⟨found, hfound⟩
  obtain ⟨_, hfound, hsnapshot⟩ := found_of_startingSnapshot hstart
  obtain rfl := Except.ok.inj hfound
  have hdoubles : w₁.doubles = w.doubles :=
    doubles_of_asks ((AggregateStore.asks_startingSnapshot (s.keyOf id)).imp
      fun _ => (·.isReading)) hstart
  -- the rest of the reading finds the storage at rest
  have hrest : ∀ {w₁ w₂ : Rivalry ε} {q : StoreRequest σ ε} {a : q.Answer}, q.IsLooking →
      Serves s decide w₁ q a w₂ → w₁.doubles = w.doubles →
        AtRest (s.keyOf id) (w.doubles.stored (s.keyOf id)) ⟨q, a⟩ ∧ w₂.doubles = w.doubles := by
    intro w₁ w₂ q a hq ha hd
    refine ⟨?_, (doubles_of_isReading hq.isReading ha).trans hd⟩
    cases q with
    | storage q =>
      cases q with
      | load key start =>
        rintro rfl
        have hanswer : (w₁.doubles.memory.serve (.load (s.keyOf id) start)).1 = a :=
          congrArg Prod.fst ha.1
        rw [← hanswer, hd]
        exact congrArg Except.ok
          (EventLog.Coherent.atLeast_of_keyed (h.coherent.keyed (s.keyOf id)) start)
      | _ => exact hq.elim
    | isCancelled => exact ha.1
    | _ => exact hq.elim
  obtain ⟨t, ht, hall, -⟩ := RunsTo.exists_traces (J := fun w₁ => w₁.doubles = w.doubles)
    hrest (AggregateStore.asks_readFrom id found) hread hdoubles
  obtain rfl := (AggregateStore.yields_readFrom s id _ found).2 t r ht hall
  -- the snapshot is none of later events, so the stream goes up to the last one
  have hle : (found.map (·.sequence)).getD 0 ≤ lastNumber (w.doubles.stored (s.keyOf id)) := by
    cases found with
    | none => exact Nat.zero_le _
    | some x => exact h.shelf x (hsnapshot x rfl).1
  have hlegible : ∀ e ∈ (w.doubles.stored (s.keyOf id)).filter
      ((found.map (·.sequence)).getD 0 + 1 ≤ ·.sequence), s.Legible e :=
    fun e he => h.legible e (List.mem_filter.1 he).1
  obtain ⟨forms, hforms, hhandled⟩ := AggregateStore.exists_currentForms id hlegible
  refine ⟨_, AggregateStore.streamFrom_eq_ok.2 ⟨by omega, forms, hforms, rfl⟩, ?_, ?_, hhandled⟩
  · exact LoadedStream.Covers.version_eq ⟨rfl, rfl⟩ h.isStream hle
  · exact fun x hx => (hsnapshot x hx).2

/-- A stream that shows the stored events can be rebuilt. -/
theorem root_of_rebuild {es : List CommittedEvent} {stream : LoadedStream ε}
    {r : Except Error (Root σ ε)} (h : s.Shows es stream)
    (hrun : RunsTo (Serves s decide) (s.rebuild id stream) w r w') : ∃ root, r = .ok root := by
  have hstart : ∀ r w₁, RunsTo (Serves s decide) (s.startingState id stream) w r w₁ →
      ∃ state, r = .ok state := by
    intro r w₁ hrun
    unfold AggregateStore.startingState at hrun
    split at hrun
    · cases hrun
      exact ⟨_, rfl⟩
    next x hx =>
      obtain ⟨answer, w₂, ⟨hanswer, -⟩, hend⟩ := RunsTo.of_ask_bind hrun
      obtain ⟨state, hstate⟩ := h.snapshot x hx
      rw [hanswer, hstate] at hend
      cases hend
      exact ⟨state, rfl⟩
  obtain ⟨start, w₁, -, hreplay⟩ := hrun.of_bind_ok hstart
  rw [Aggregate.replay_eq_foldl h.handled] at hreplay
  cases hreplay
  exact ⟨_, rfl⟩

/-- **A load finds the last version**, in the cache or in storage. -/
theorem root_of_loadRoot {r : Except Error (Root σ ε × LoadedStream ε)} (h : s.Contested id w)
    (hroom : lastNumber (w.doubles.stored (s.keyOf id)) < greatestSequence)
    (hrun : RunsTo (Serves s decide) (s.loadRoot id) w r w') :
    ∃ root stream, r = .ok (root, stream) ∧ root.uncommitted = [] ∧
      root.version = lastNumber (w.doubles.stored (s.keyOf id)) ∧ w'.doubles = w.doubles := by
  have hdoubles := doubles_of_asks (AggregateStore.asks_loadRoot id) hrun
  have hfresh := (AggregateStore.ends_loadRoot (s := s) id).of_runsTo hrun
  suffices hshows : ∃ root stream, r = .ok (root, stream) ∧
      s.Shows (w.doubles.stored (s.keyOf id)) stream by
    obtain ⟨root, stream, rfl, hshows⟩ := hshows
    have hroot := hfresh root stream rfl
    exact ⟨root, stream, rfl, hroot.uncommitted, hroot.version.trans hshows.version,
      hdoubles⟩
  -- in either way of reading, the stream shows the stored events and is rebuilt
  have hread : ∀ {w₁ w₂ : Rivalry ε} {r : Except Error (Root σ ε × LoadedStream ε)}
      {f : LoadedStream ε → Root σ ε → StoreCall σ ε (Root σ ε × LoadedStream ε)},
      w₁.doubles = w.doubles →
      RunsTo (Serves s decide) ((s.readStream id).bind fun stream =>
        (s.rebuild id stream).bind (f stream)) w₁ r w₂ →
      ∃ stream root w₃, s.Shows (w.doubles.stored (s.keyOf id)) stream ∧
        RunsTo (Serves s decide) (f stream root) w₃ r w₂ := by
    intro w₁ w₂ r f hd hrun
    have hcalm : s.Calm id w₁.doubles := hd ▸ h.calm
    rw [← hd] at hroom ⊢
    obtain ⟨stream, w₂, hstream, hrebuild⟩ := hrun.of_bind_ok fun _ _ hstream => by
      obtain ⟨stream, hr, -⟩ := shows_of_readStream hcalm hroom hstream
      exact ⟨stream, hr⟩
    obtain ⟨_, hr, hshows⟩ := shows_of_readStream hcalm hroom hstream
    obtain rfl := Except.ok.inj hr
    obtain ⟨root, w₃, -, hend⟩ := hrebuild.of_bind_ok fun _ _ => root_of_rebuild hshows
    exact ⟨stream, root, w₃, hshows, hend⟩
  unfold AggregateStore.loadRoot AggregateStore.cachedStream AggregateStore.readRoot at hrun
  cases hcaching : s.caching with
  | false =>
    simp only [hcaching, Bool.false_eq_true, if_false] at hrun
    obtain ⟨stream, root, w₁, hshows, hend⟩ := hread (f := fun stream root => pure (root, stream))
      rfl hrun
    cases hend
    exact ⟨root, stream, rfl, hshows⟩
  | true =>
    simp only [hcaching, if_true] at hrun
    obtain ⟨found, w₁, ⟨now, hget, hd⟩, hgo⟩ := RunsTo.of_ask_bind hrun
    cases found with
    | some stream =>
      obtain ⟨entry, hentry, rfl⟩ := StreamCache.entry?_of_get (congrArg Prod.fst hget)
      have hshows := h.cached hcaching entry hentry
      obtain ⟨root, w₂, -, hend⟩ := hgo.of_bind_ok fun _ _ => root_of_rebuild hshows
      cases hend
      exact ⟨root, entry.stream, rfl, hshows⟩
    | none =>
      obtain ⟨generation, w₂, ⟨-, rfl⟩, hrest⟩ := RunsTo.of_ask_bind hgo
      obtain ⟨stream, root, w₃, hshows, hkeep⟩ := hread (f := fun stream root =>
        (StoreCall.keep (s.keyOf id) generation stream).bind fun _ => pure (root, stream)) hd hrest
      obtain ⟨kept, w₄, -, hend⟩ := RunsTo.of_ask_bind hkeep
      cases hend
      exact ⟨root, stream, rfl, hshows⟩

/-! ### A commit -/

/-- A batch that can be read leaves the storage calm. -/
theorem calm_of_took {d d' : Simulation.Doubles} {ps : List PendingEvent} (h : s.Calm id d)
    (hps : Continues (d.stored (s.keyOf id)) ps)
    (hlegible : ∀ p ∈ ps, ∀ e : CommittedEvent, e.type = p.type → e.payload = p.payload →
      s.Legible e)
    (ht : d.Took (s.keyOf id) ps d') :
    s.Calm id d' ∧ ∃ new, d'.stored (s.keyOf id) =
      d.stored (s.keyOf id) ++ new ∧ new.length = ps.length ∧
      lastNumber (d'.stored (s.keyOf id)) =
        lastNumber (d.stored (s.keyOf id)) + ps.length := by
  obtain ⟨b, hevents⟩ := ht.events
  have hvalues : d'.stored (s.keyOf id) = d.stored (s.keyOf id) ++
      EventLog.number (s.keyOf id) b d.memory.events.lastGlobal ps := by
    rw [Simulation.Doubles.stored, hevents]
    exact hps.values_append h.coherent h.isStream b d.memory.events.lastGlobal
  have hlast := hps.lastNumber_append (s.keyOf id) b d.memory.events.lastGlobal
  rw [← hvalues] at hlast
  refine ⟨⟨?_, ?_, ?_, ?_⟩, _, hvalues, EventLog.length_number .., hlast⟩
  · rw [hevents]
    exact (hps.freeFor h.coherent h.isStream).append h.coherent hps.runsOn
  · rw [hvalues]
    exact hps.isStream_append h.isStream b _
  · rw [hvalues]
    refine List.forall_mem_append.2 ⟨h.legible, fun e he => ?_⟩
    obtain ⟨p, hp, heq⟩ := EventLog.exists_of_mem_number he
    exact hlegible p hp e (by rw [heq]; rfl) (by rw [heq]; rfl)
  · intro x hx
    rw [ht.shelf] at hx
    rw [hlast]
    exact Nat.le_add_right_of_le (h.shelf x hx)

/-- What an attempt comes to that ends with `r`: one commit is asked for and one batch of `k` events
is stored, the attempt's own or, if the rival comes before it, the rival's. -/
structure Strikes (s : AggregateStore σ ε) (id : AggregateId) (k : Nat) (d : Simulation.Doubles)
    (r : Except Error (List CommittedEvent)) (d' : Simulation.Doubles) : Prop where
  commits : d'.attempts = d.attempts + 1
  stored : ∃ new, d'.stored (s.keyOf id) = d.stored (s.keyOf id) ++ new ∧ new.length = k
  alone : d.conflicts = 0 → ∃ es, r = .ok es ∧ es.length = k
  behind : ∀ n, d.conflicts = n + 1 → conflicts r = true ∧ d'.conflicts = n ∧ s.Calm id d' ∧
    lastNumber (d'.stored (s.keyOf id)) = lastNumber (d.stored (s.keyOf id)) + k

/-- The commit of a batch that continues its stream, and what follows it without storing events or
failing. -/
theorem strikes_of_commit {b : Uuid} {ps : List PendingEvent}
    {rest : List CommittedEvent → StoreCall σ ε (List CommittedEvent)}
    {r : Except Error (List CommittedEvent)} (h : s.Calm id w.doubles)
    (hps : Continues (w.doubles.stored (s.keyOf id)) ps)
    (hlegible : ∀ p ∈ ps, ∀ e : CommittedEvent, e.type = p.type → e.payload = p.payload →
      s.Legible e)
    (hb : b ≠ w.doubles.fresh.1) (hasks : ∀ es, Asks LeavesEvents (rest es))
    (hends : ∀ es, Ends (fun r => r = .ok es) (rest es))
    (hrun : RunsTo (Serves s decide)
      ((StoreCall.storage (.commit (s.keyOf id) b ps)).bind rest) w r w') :
    Strikes s id ps.length w.doubles r w'.doubles := by
  cases hconflicts : w.doubles.conflicts with
  | zero =>
    obtain ⟨d', hd', htook⟩ :=
      Simulation.Doubles.commit_alone hps h.coherent h.isStream hconflicts b
    obtain ⟨-, new, hnew, hlength, -⟩ := calm_of_took h hps hlegible htook
    obtain ⟨es, w₁, hcommit, hrest⟩ := hrun.of_bind_ok fun _ _ hcommit =>
      ⟨_, (eq_of_commit hd' hcommit).1⟩
    obtain ⟨hes, rfl⟩ := eq_of_commit hd' hcommit
    obtain rfl := Except.ok.inj hes
    obtain rfl := (hends _).of_runsTo hrest
    obtain ⟨hevents, hattempts⟩ := events_of_asks (hasks _) hrest
    refine ⟨hattempts.trans htook.attempts, ⟨new, ?_, hlength⟩, ?_, ?_⟩
    · rw [Simulation.Doubles.stored, hevents]
      exact hnew
    · exact fun _ => ⟨_, rfl, EventLog.length_number ..⟩
    · intro n hn
      rw [hconflicts] at hn
      cases hn
  | succ n =>
    obtain ⟨m, d', hd', htook, hleft⟩ :=
      Simulation.Doubles.commit_behind hps h.coherent h.isStream hconflicts hb
    obtain ⟨hcalm, new, hnew, hlength, hlast⟩ := calm_of_took h hps hlegible htook
    rcases hrun.of_bind with ⟨es, w₁, hcommit, -⟩ | ⟨e, hcommit, rfl⟩
    · cases (eq_of_commit hd' hcommit).1
    obtain ⟨he, rfl⟩ := eq_of_commit hd' hcommit
    obtain rfl := Except.error.inj he
    refine ⟨htook.attempts, ⟨new, hnew, hlength⟩, ?_, ?_⟩
    · intro hzero
      rw [hconflicts] at hzero
      cases hzero
    · rintro n' hn'
      obtain rfl : n = n' := Nat.succ.inj (hconflicts.symm.trans hn')
      exact ⟨rfl, hleft, hcalm, hlast⟩

/-- **Committing what a steady decision emitted strikes once.** -/
theorem strikes_of_commitRoot {decided : Root σ ε} {stream : LoadedStream ε}
    {source : Option String} {r : Except Error (List CommittedEvent)} (hs : s.Steady decide k)
    (h : s.Calm id w.doubles) (hversion : decided.version =
      lastNumber (w.doubles.stored (s.keyOf id)))
    (hlength : decided.uncommitted.length = k) (hstorable : ∀ x ∈ decided.uncommitted, s.Storable x)
    (hroom : lastNumber (w.doubles.stored (s.keyOf id)) + k ≤ greatestSequence)
    (hrun : RunsTo (Serves s decide) (s.commitRoot id source stream decided) w r w') :
    Strikes s id k w.doubles r w'.doubles := by
  obtain ⟨b, w₁, ⟨hb, rfl⟩, hnow⟩ := RunsTo.of_ask_bind hrun
  obtain ⟨now, w₂, rfl, hprepare⟩ := RunsTo.of_ask_bind hnow
  have hpositive := hs.positive
  -- the events are prepared, which asks for identifiers only
  have hprepares : ∀ {r w₁}, RunsTo (Serves s decide)
      (s.pendingEvents (s.keyOf id) now.text b source decided.version decided.uncommitted)
      w₂ r w₁ → ∃ ps, r = .ok ps := by
    intro r w₁ hrun
    refine (AggregateStore.ends_pendingEvents_ok hs.agreed _ _ _ _ ?_ ?_).of_runsTo hrun
    · intro x hx
      obtain ⟨payload, hpayload, -⟩ := hstorable x hx
      exact ⟨payload, hpayload⟩
    · rw [hversion, hlength]
      exact hroom
  obtain ⟨ps, w₃, hps, hlive⟩ := hprepare.of_bind_ok fun _ _ => hprepares
  obtain rfl : w₃ = w₂ := AggregateStore.eq_of_runsTo_pendingEvents (fun ha => ha.2) hps
  obtain ⟨hwritten, hnumbered⟩ := (AggregateStore.ends_pendingEvents ..).of_runsTo hps ps rfl
  have hcount : ps.length = k := hwritten.length_eq.symm.trans hlength
  obtain ⟨u, w₄, hcheck, hcommit⟩ := hlive.of_bind_ok fun _ _ h => ⟨(), (eq_of_checkLive h).1⟩
  obtain rfl := (eq_of_checkLive hcheck).2
  rw [← hcount] at hroom ⊢
  refine strikes_of_commit h ⟨?_, ?_, hroom⟩ ?_ hb ?_ ?_ hcommit
  · rintro rfl
    rw [List.length_nil] at hcount
    omega
  · rw [hnumbered, hversion, hlength, hcount]
  · refine AggregateStore.forall_of_writes hwritten ?_
    rintro x hx p ⟨htype, hpayload⟩ e hetype hepayload
    obtain ⟨payload, hwrites, hlegible⟩ := hstorable x hx
    obtain rfl := Except.ok.inj (hpayload.symm.trans hwrites)
    exact hlegible e (hetype.trans htype) hepayload
  · exact fun es => AggregateStore.asks_afterCommit trivial trivial trivial fun _ _ _ => trivial
  · exact fun es => AggregateStore.ends_afterCommit id decided _ _ es

/-- **An attempt by a steady decision strikes once.** -/
theorem strikes_of_attempt {r : Except Error (List CommittedEvent)} (hs : s.Steady decide k)
    (h : s.Contested id w)
    (hroom : lastNumber (w.doubles.stored (s.keyOf id)) + k ≤ greatestSequence)
    (hrun : RunsTo (Serves s decide) (s.attempt id none) w r w') :
    Strikes s id k w.doubles r w'.doubles := by
  have hpositive := hs.positive
  have hloads := fun {r w₁} (hload : RunsTo (Serves s decide) (s.loadRoot id) w r w₁) =>
    root_of_loadRoot h (by omega) hload
  obtain ⟨⟨root, stream⟩, w₁, hload, hrest⟩ := hrun.of_bind_ok fun _ _ hload => by
    obtain ⟨root, stream, hr, -⟩ := hloads hload
    exact ⟨_, hr⟩
  obtain ⟨_, _, hr, hempty, hversion, hdoubles⟩ := hloads hload
  obtain ⟨rfl, rfl⟩ := Prod.mk.inj (Except.ok.inj hr)
  rw [← hdoubles] at hroom hversion ⊢
  have hcalm : s.Calm id w₁.doubles := hdoubles ▸ h.calm
  obtain ⟨decision, w₂, ⟨hdecision, rfl⟩, hcommit⟩ := RunsTo.of_ask_bind hrest
  obtain ⟨decided, hdecided, hemits, hlength, hstorable⟩ := hs.emits root hempty
  obtain ⟨-, -, -, -, -, hstill⟩ := hemits.spec
  rw [hdecision, hdecided] at hcommit
  change RunsTo _ (if decided.uncommitted.isEmpty then _ else _) _ _ _ at hcommit
  rw [if_neg] at hcommit
  · exact strikes_of_commitRoot hs hcalm (hstill.trans hversion) hlength hstorable hroom hcommit
  · intro hnone
    rw [List.isEmpty_iff_length_eq_zero] at hnone
    omega

end Rivalry

end EventLedger
