import EventLedger.Store
import Mathlib.Data.List.Forall2

/-!
# Reading stored events

What the stored events of an aggregate say: their current forms, replayed from the initial state.
Reading goes event by event, so it can be split anywhere, and the bound on passes decides only
whether an event is read, never as what.

## Main definitions

* `AggregateStore.rebuilt` — the aggregate that a list of stored events describes.
* `Root.Emits` — a root after events were emitted on it.
* `AggregateStore.rebuiltFrom` — the aggregate that events describe which come after a state, by way
  of `AggregateStore.streamFrom`, the stream, and `AggregateStore.replayed`, what it is replayed as.
* `AggregateStore.readFrom` — the call that reads a stream from a snapshot on.

## Main results

* `UpgraderChain.upgrade_mono` — more passes than needed change nothing.
* `AggregateStore.currentForms_append` — reading can be split anywhere.
* `Root.Emits.spec` — **what emitting does.**
-/

namespace EventLedger

variable {σ ε : Type}

/-! ### Passes -/

namespace UpgraderChain

variable {typeOf : ε → EventType}

/-- More passes than needed change nothing. -/
theorem passes_mono {us : List (Upgrader ε)} : ∀ {n m : Nat} {es r : List ε}, n ≤ m →
    passes typeOf us n es = some r → passes typeOf us m es = some r
  | 0, _, _, _, _, h => by cases h
  | n + 1, 0, _, _, hle, _ => by omega
  | n + 1, m + 1, es, r, hle, h => by
    rw [passes] at h ⊢
    split at h
    next => exact h
    next => exact passes_mono (by omega) h

theorem upgrade_mono {us : List (Upgrader ε)} {n m : Nat} {e : ε} {r : List ε} (hle : n ≤ m)
    (h : upgrade ⟨us, n⟩ typeOf e = .ok r) : upgrade ⟨us, m⟩ typeOf e = .ok r := by
  unfold upgrade at h ⊢
  split at h
  next hus =>
    rw [if_pos hus]
    exact h
  next hus =>
    rw [if_neg hus]
    split at h
    next es hes =>
      obtain rfl : es = r := by simpa using h
      rw [passes_mono hle hes]
    next => cases h

/-- A pass leaves an event alone whose type no upgrader replaces. -/
theorem pass_of_forall_ne {e : ε} : ∀ {us : List (Upgrader ε)},
    (∀ u ∈ us, u.input ≠ typeOf e) → pass typeOf us [e] = (false, [e])
  | [], _ => rfl
  | u :: us, h => by
    have hu : applyOne typeOf u [e] = none := by
      have : typeOf e ≠ u.input := fun heq => h u (by simp) heq.symm
      simp [applyOne, this]
    rw [pass, hu]
    exact pass_of_forall_ne fun u' hu' => h u' (by simp [hu'])

/-- An event whose type no upgrader replaces is in its current form. -/
theorem upgrade_of_forall_ne {us : List (Upgrader ε)} {n : Nat} {e : ε} (hn : 0 < n)
    (h : ∀ u ∈ us, u.input ≠ typeOf e) : upgrade ⟨us, n⟩ typeOf e = .ok [e] := by
  obtain ⟨k, rfl⟩ : ∃ k, n = k + 1 := ⟨n - 1, by omega⟩
  unfold upgrade
  split
  · rfl
  · rw [passes, pass_of_forall_ne h]

end UpgraderChain

/-! ### Replaying -/

namespace Aggregate

variable {a : Aggregate σ ε}

theorem replay_append {s s' : σ} : ∀ {xs : List ε} (ys : List ε), a.replay s xs = .ok s' →
    a.replay s (xs ++ ys) = a.replay s' ys := by
  intro xs
  induction xs generalizing s with
  | nil =>
    intro ys h
    obtain rfl : s = s' := by simpa [replay] using h
    rfl
  | cons x xs ih =>
    intro ys h
    rw [List.cons_append, replay]
    rw [replay] at h
    split at h
    next s₁ hs₁ => exact ih ys h
    next => cases h

theorem isConflict_of_replay {e : Error} : ∀ {xs : List ε} {s : σ}, a.replay s xs = .error e →
    e.isConflict = false
  | [], _, h => by cases h
  | x :: xs, s, h => by
    rw [replay] at h
    split at h
    next s' _ => exact isConflict_of_replay h
    next e' hx =>
      obtain rfl : e' = e := by simpa using h
      unfold apply at hx
      split at hx
      · cases hx
      · obtain rfl := Except.error.inj hx
        rfl

end Aggregate

namespace Root

/-- Emitting an event changes the state by its handler, records it, and does nothing else. -/
theorem emit_eq_ok_iff {a : Aggregate σ ε} {r r' : Root σ ε} {e : ε} : r.emit a e = .ok r' ↔
    ∃ s, a.apply r.state e = .ok s ∧
      r' = { r with state := s, uncommitted := r.uncommitted ++ [e] } := by
  unfold emit
  cases a.apply r.state e with
  | ok s => simp [eq_comm]
  | error err => simp

theorem uncommitted_of_emit {a : Aggregate σ ε} {r r' : Root σ ε} {e : ε}
    (h : r.emit a e = .ok r') : r'.uncommitted = r.uncommitted ++ [e] := by
  obtain ⟨_, -, rfl⟩ := emit_eq_ok_iff.1 h
  rfl

/-- The root `r'` arises from `r` by emitting events one after another. -/
inductive Emits (a : Aggregate σ ε) (r : Root σ ε) : Root σ ε → Prop
  | refl : Emits a r r
  | emit {r' r'' : Root σ ε} {e : ε} : Emits a r r' → r'.emit a e = .ok r'' → Emits a r r''

/-- **What emitting does**: the state is replayed along, the events are recorded, and nothing else
changes. -/
theorem Emits.spec {a : Aggregate σ ε} {r r' : Root σ ε} (h : Emits a r r') :
    ∃ es, r'.uncommitted = r.uncommitted ++ es ∧ a.replay r.state es = .ok r'.state ∧
      (∀ e ∈ es, a.handles (a.typeOf e) = true) ∧ r'.id = r.id ∧ r'.version = r.version := by
  induction h with
  | refl => exact ⟨[], by simp, rfl, by simp, rfl, rfl⟩
  | @emit r' r'' e _ hemit ih =>
    obtain ⟨es, hun, hst, hall, hid, hver⟩ := ih
    obtain ⟨s, hs, rfl⟩ := emit_eq_ok_iff.1 hemit
    refine ⟨es ++ [e], by simp [hun], ?_, ?_, hid, hver⟩
    · rw [Aggregate.replay_append _ hst, Aggregate.replay, hs]
      rfl
    · intro x hx
      rcases List.mem_append.1 hx with hx | hx
      · exact hall x hx
      · obtain rfl := List.mem_singleton.1 hx
        unfold Aggregate.apply at hs
        split at hs
        next hh => simp [Aggregate.handles, hh]
        next => cases hs

/-- Emitting is about the root that it began with. -/
theorem Emits.id_eq {a : Aggregate σ ε} {r r' : Root σ ε} (h : Emits a r r') : r'.id = r.id := by
  obtain ⟨-, -, -, -, hid, -⟩ := h.spec
  exact hid

end Root

/-! ### Current forms -/

namespace AggregateStore

variable {s : AggregateStore σ ε} {id : AggregateId}

@[simp] theorem currentForms_nil : s.currentForms id [] = .ok [] := rfl

theorem currentForms_cons (e : CommittedEvent) (es : List CommittedEvent) :
    s.currentForms id (e :: es) = (do
      let xs ← s.currentForm id e
      let ys ← s.currentForms id es
      pure (xs ++ ys)) := rfl

theorem isConflict_of_currentForms {e : Error} : ∀ {es : List CommittedEvent},
    s.currentForms id es = .error e → e.isConflict = false
  | [], h => by cases h
  | c :: es, h => by
    rw [currentForms_cons] at h
    cases hc : s.currentForm id c with
    | error e' =>
      obtain rfl : e' = e := by simpa [hc, bind, Except.bind] using h
      unfold currentForm at hc
      split at hc
      · obtain rfl := Except.error.inj hc
        rfl
      · unfold UpgraderChain.upgrade at hc
        split at hc
        · cases hc
        · split at hc
          · cases hc
          · obtain rfl := Except.error.inj hc
            rfl
    | ok xs =>
      cases hes : s.currentForms id es with
      | error e' =>
        obtain rfl : e' = e := by simpa [hc, hes, bind, Except.bind] using h
        exact isConflict_of_currentForms hes
      | ok ys => simp [hc, hes, bind, Except.bind, pure, Except.pure] at h

/-- **Reading can be split anywhere.** -/
theorem currentForms_append (es fs : List CommittedEvent) :
    s.currentForms id (es ++ fs) = (do
      let xs ← s.currentForms id es
      let ys ← s.currentForms id fs
      pure (xs ++ ys)) := by
  induction es with
  | nil =>
    cases h : s.currentForms id fs <;> simp [h, bind, Except.bind, pure, Except.pure]
  | cons e es ih =>
    rw [List.cons_append, currentForms_cons, currentForms_cons, ih]
    cases s.currentForm id e with
    | error => rfl
    | ok xs =>
      cases s.currentForms id es with
      | error => rfl
      | ok ys =>
        cases s.currentForms id fs with
        | error => rfl
        | ok zs => simp [bind, Except.bind, pure, Except.pure]

theorem currentForms_append_eq_ok {es fs : List CommittedEvent} {zs : List ε} :
    s.currentForms id (es ++ fs) = .ok zs ↔
      ∃ xs ys, s.currentForms id es = .ok xs ∧ s.currentForms id fs = .ok ys ∧ zs = xs ++ ys := by
  rw [currentForms_append]
  cases s.currentForms id es with
  | error => simp [bind, Except.bind]
  | ok xs =>
    cases s.currentForms id fs with
    | error => simp [bind, Except.bind]
    | ok ys => simp [bind, Except.bind, pure, Except.pure, eq_comm]

/-- The aggregate that stored events describe, read from the first one on. -/
def rebuilt (s : AggregateStore σ ε) (id : AggregateId) (events : List CommittedEvent) :
    Except Error (Root σ ε) := do
  let forms ← s.currentForms id events
  let state ← s.aggregate.replay s.aggregate.initial forms
  pure ⟨id, state, (events.getLast?.map (·.sequence)).getD 0, []⟩

theorem rebuilt_eq_ok {events : List CommittedEvent} {root : Root σ ε} :
    s.rebuilt id events = .ok root ↔
      ∃ xs st, s.currentForms id events = .ok xs ∧
        s.aggregate.replay s.aggregate.initial xs = .ok st ∧
        root = ⟨id, st, (events.getLast?.map (·.sequence)).getD 0, []⟩ := by
  unfold rebuilt
  cases s.currentForms id events with
  | error => simp [bind, Except.bind]
  | ok xs =>
    cases h : s.aggregate.replay s.aggregate.initial xs with
    | error => simp [bind, Except.bind, h]
    | ok st => simp [bind, Except.bind, pure, Except.pure, h, eq_comm]

/-! ### Streams -/

/-- The stream of a snapshot and the events after it. -/
def streamFrom (s : AggregateStore σ ε) (id : AggregateId) (snapshot : Option Snapshot)
    (events : List CommittedEvent) : Except Error (LoadedStream ε) :=
  let start := (snapshot.map (·.sequence)).getD 0
  if greatestSequence ≤ start then .error .sequenceOverflow
  else (s.currentForms id events).map fun forms =>
    ⟨snapshot, events, forms, (events.getLast?.map (·.sequence)).getD start⟩

/-- The aggregate that arises from a state by replaying a stream. -/
def replayed (s : AggregateStore σ ε) (id : AggregateId) (state : σ) (stream : LoadedStream ε) :
    Except Error (Root σ ε) :=
  (s.aggregate.replay state stream.upgraded).map fun state => ⟨id, state, stream.version, []⟩

/-- The aggregate that events describe which come after a snapshot of a state. -/
def rebuiltFrom (s : AggregateStore σ ε) (id : AggregateId) (snapshot : Option Snapshot)
    (state : σ) (events : List CommittedEvent) : Except Error (Root σ ε) := do
  let stream ← s.streamFrom id snapshot events
  s.replayed id state stream

/-- An aggregate is rebuilt along with the stream that it is rebuilt from. -/
theorem rebuiltFrom_eq (id : AggregateId) (snapshot : Option Snapshot) (state : σ)
    (events : List CommittedEvent) : s.rebuiltFrom id snapshot state events =
      ((s.streamFrom id snapshot events).bind fun stream =>
        (s.replayed id state stream).map fun root => (root, stream)).map Prod.fst := by
  unfold rebuiltFrom
  cases s.streamFrom id snapshot events with
  | error e => rfl
  | ok stream =>
    change s.replayed id state stream =
      ((s.replayed id state stream).map fun root => (root, stream)).map Prod.fst
    cases s.replayed id state stream with
    | error e => rfl
    | ok root => rfl

theorem streamFrom_eq_ok {snapshot : Option Snapshot} {events : List CommittedEvent}
    {stream : LoadedStream ε} :
    s.streamFrom id snapshot events = .ok stream ↔
      (snapshot.map (·.sequence)).getD 0 < greatestSequence ∧
        ∃ forms, s.currentForms id events = .ok forms ∧ stream = ⟨snapshot, events, forms,
          (events.getLast?.map (·.sequence)).getD ((snapshot.map (·.sequence)).getD 0)⟩ := by
  unfold streamFrom
  dsimp only
  split
  next hfull => simp [Nat.not_lt.2 hfull]
  next hroom =>
    cases s.currentForms id events with
    | error e => simp [Except.map]
    | ok forms => simp [Except.map, Nat.not_le.1 hroom, eq_comm]

/-- The stream that was read begins with the snapshot. -/
theorem snapshot_of_streamFrom {snapshot : Option Snapshot} {events : List CommittedEvent}
    {stream : LoadedStream ε} (h : s.streamFrom id snapshot events = .ok stream) :
    stream.snapshot = snapshot := by
  obtain ⟨-, forms, -, rfl⟩ := streamFrom_eq_ok.1 h
  rfl

/-- The reading of a stream from a snapshot on. -/
def readFrom (s : AggregateStore σ ε) (id : AggregateId) (snapshot : Option Snapshot) :
    StoreCall σ ε (LoadedStream ε) :=
  StoreCall.checkLive.bind fun _ =>
    if greatestSequence ≤ (snapshot.map (·.sequence)).getD 0 then .failed .sequenceOverflow
    else (StoreCall.storage (.load (s.keyOf id) ((snapshot.map (·.sequence)).getD 0 + 1))).bind
      fun events => Call.ofExcept (s.streamFrom id snapshot events)

/-- A stream is read from its newest usable snapshot on. -/
theorem readStream_eq (s : AggregateStore σ ε) (id : AggregateId) :
    s.readStream id = (s.startingSnapshot (s.keyOf id)).bind (s.readFrom id) := by
  refine congrArg (Call.bind (s.startingSnapshot _)) (funext fun snapshot => ?_)
  refine congrArg (Call.bind StoreCall.checkLive) (funext fun _ => ?_)
  dsimp only
  split
  · rfl
  next hroom =>
    refine congrArg (Call.bind (StoreCall.storage _)) (funext fun events => ?_)
    unfold streamFrom
    dsimp only
    rw [if_neg hroom]
    cases s.currentForms id events with
    | error e => rfl
    | ok forms => rfl

/-- A stream without a snapshot is replayed onto the initial state. -/
theorem rebuild_of_none {stream : LoadedStream ε} (h : stream.snapshot = none) :
    s.rebuild id stream = Call.ofExcept (s.replayed id s.aggregate.initial stream) := by
  have hstart : s.startingState id stream = .done s.aggregate.initial := by
    rw [startingState, h]
    rfl
  unfold rebuild replayed
  rw [hstart]
  change (Call.ofExcept (s.aggregate.replay s.aggregate.initial stream.upgraded)).bind _ = _
  cases s.aggregate.replay s.aggregate.initial stream.upgraded with
  | error e => rfl
  | ok st => rfl

end AggregateStore

end EventLedger
