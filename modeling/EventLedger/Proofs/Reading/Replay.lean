import EventLedger.Orders.Store
import EventLedger.Proofs.Reading.AtRest
import EventLedger.Proofs.Requests

/-!
# What a load replays

A load decodes and upgrades all stored events before the first handler runs, so a failure to read
one event comes before a missing handler for an earlier one, and of the events that cannot be read
the first one counts.  If all goes well, the state is that of the handlers, one after the other, over
all upgraded events, while the version is that of the stored ones.

## Main definitions

* `AggregateStore.Upgrades s e ys` — the stored event `e` is read as the events `ys`.
* `Aggregate.handle` — the state after an event, by the handler of its type.
* `AggregateStore.Replays s id es r` — replaying the stored events `es` comes to `r`.
* `AggregateStore.LoadsReplay s id es` — a load while the storage holds `es` is such a replay.

## Main results

* `AggregateStore.replays_iff` — replaying comes to exactly one result.
* `AggregateStore.keepsNothing_of_traces_load` — a load that fails keeps nothing in the cache.
* `AggregateStore.loadsReplay_of_plain` — **without snapshots and a cached stream, a load yields the
  replay of all events, failures included.**
-/

namespace EventLedger

open Call (Asks Traces)
open StoreRequest (KeepsNothing)

variable {σ ε : Type} {es : List CommittedEvent}

/-! ### Handlers -/

namespace Aggregate

variable {a : Aggregate σ ε} {st : σ} {xs : List ε}

/-- The state after an event, by the handler of its type. -/
def handle (a : Aggregate σ ε) (st : σ) (y : ε) : σ :=
  ((a.handler? (a.typeOf y)).map fun handler => handler st y).getD st

theorem apply_of_handles {y : ε} (h : a.handles (a.typeOf y) = true) :
    a.apply st y = .ok (a.handle st y) := by
  obtain ⟨handler, hhandler⟩ := Option.isSome_iff_exists.1 h
  rw [apply, handle, hhandler]
  rfl

/-- Replaying events that have handlers is handling one after the other. -/
theorem replay_eq_foldl (h : ∀ x ∈ xs, a.handles (a.typeOf x) = true) :
    a.replay st xs = .ok (xs.foldl a.handle st) := by
  induction xs generalizing st with
  | nil => rfl
  | cons x xs ih =>
    obtain ⟨hx, hxs⟩ := List.forall_mem_cons.1 h
    rw [replay, apply_of_handles hx]
    exact ih hxs

/-- Replaying stops at the first event without a handler. -/
theorem replay_eq_error {y : ε} {rest : List ε} (h : ∀ x ∈ xs, a.handles (a.typeOf x) = true)
    (hy : a.handles (a.typeOf y) = false) :
    a.replay st (xs ++ y :: rest) = .error (.missingHandler a.name (a.typeOf y)) := by
  rw [replay_append _ (replay_eq_foldl h), replay, apply,
    Option.not_isSome_iff_eq_none.1 (Bool.eq_false_iff.1 hy)]

end Aggregate

namespace AggregateStore

variable {s : AggregateStore σ ε} {id : AggregateId}

/-! ### Upgraded events -/

/-- The stored event is read as the events `ys`: decoded under the type that it is stored as, and
upgraded. -/
def Upgrades (s : AggregateStore σ ε) (e : CommittedEvent) (ys : List ε) : Prop :=
  ∃ x, s.codec.readEvent e.payload e.type = .ok x ∧
    s.upgraders.upgrade s.aggregate.typeOf x = .ok ys

theorem currentForm_eq_ok_iff {e : CommittedEvent} {ys : List ε} :
    s.currentForm id e = .ok ys ↔ s.Upgrades e ys := by
  unfold currentForm Upgrades
  cases s.codec.readEvent e.payload e.type with
  | error reason => simp
  | ok x => simp

/-- Stored events are read if each of them is. -/
theorem currentForms_eq_ok_iff {xs : List ε} :
    s.currentForms id es = .ok xs ↔
      ∃ yss, List.Forall₂ s.Upgrades es yss ∧ xs = yss.flatten := by
  induction es generalizing xs with
  | nil => simp [eq_comm]
  | cons e es ih =>
    constructor
    · intro h
      rw [currentForms_cons] at h
      cases he : s.currentForm id e with
      | error err =>
        rw [he] at h
        cases h
      | ok ys =>
        cases hes : s.currentForms id es with
        | error err =>
          rw [he, hes] at h
          cases h
        | ok zs =>
          rw [he, hes] at h
          obtain ⟨yss, hyss, rfl⟩ := ih.1 hes
          exact ⟨ys :: yss, .cons (currentForm_eq_ok_iff.1 he) hyss, (Except.ok.inj h).symm⟩
    · rintro ⟨yss, hyss, rfl⟩
      cases hyss with
      | cons he hes =>
        rw [currentForms_cons, currentForm_eq_ok_iff.2 he, ih.2 ⟨_, hes, rfl⟩]
        rfl

/-- Otherwise reading them fails as the first one does that is not read. -/
theorem exists_of_currentForms_eq_error {err : Error} (h : s.currentForms id es = .error err) :
    ∃ before e after yss, es = before ++ e :: after ∧ List.Forall₂ s.Upgrades before yss ∧
      s.currentForm id e = .error err := by
  induction es with
  | nil => cases h
  | cons e es ih =>
    rw [currentForms_cons] at h
    cases he : s.currentForm id e with
    | error err' =>
      rw [he] at h
      obtain rfl := Except.error.inj h
      exact ⟨[], e, es, [], rfl, .nil, he⟩
    | ok ys =>
      cases hes : s.currentForms id es with
      | ok zs =>
        rw [he, hes] at h
        cases h
      | error err' =>
        rw [he, hes] at h
        obtain ⟨before, e', after, yss, rfl, hbefore, he'⟩ := ih (hes.trans h)
        exact ⟨e :: before, e', after, ys :: yss, rfl,
          .cons (currentForm_eq_ok_iff.1 he) hbefore, he'⟩

theorem currentForms_eq_error {before after : List CommittedEvent} {e : CommittedEvent}
    {yss : List (List ε)} {err : Error} (hbefore : List.Forall₂ s.Upgrades before yss)
    (he : s.currentForm id e = .error err) :
    s.currentForms id (before ++ e :: after) = .error err := by
  rw [currentForms_append, currentForms_eq_ok_iff.2 ⟨yss, hbefore, rfl⟩, currentForms_cons, he]
  rfl

/-! ### Replays -/

/-- Replaying the stored events `es` comes to the result `r`. -/
inductive Replays (s : AggregateStore σ ε) (id : AggregateId) (es : List CommittedEvent) :
    Except Error (Root σ ε) → Prop
  /-- The first event that is not read cannot be decoded, -/
  | undecodable {before after : List CommittedEvent} {e : CommittedEvent} {yss : List (List ε)}
      {reason : String} : es = before ++ e :: after → List.Forall₂ s.Upgrades before yss →
      s.codec.readEvent e.payload e.type = .error reason →
      Replays s id es (.error (.serialization e.key.id e.sequence e.type reason))
  /-- or it cannot be upgraded. -/
  | stuck {before after : List CommittedEvent} {e : CommittedEvent} {yss : List (List ε)} {x : ε}
      {err : Error} : es = before ++ e :: after → List.Forall₂ s.Upgrades before yss →
      s.codec.readEvent e.payload e.type = .ok x →
      s.upgraders.upgrade s.aggregate.typeOf x = .error err → Replays s id es (.error err)
  /-- All events are read, and there is a first upgraded event without a handler. -/
  | unhandled {yss : List (List ε)} {xs rest : List ε} {y : ε} :
      List.Forall₂ s.Upgrades es yss → yss.flatten = xs ++ y :: rest →
      (∀ x ∈ xs, s.aggregate.handles (s.aggregate.typeOf x) = true) →
      s.aggregate.handles (s.aggregate.typeOf y) = false →
      Replays s id es (.error (.missingHandler s.aggregate.name (s.aggregate.typeOf y)))
  /-- All events are read, and all upgraded ones have handlers. -/
  | replayed {yss : List (List ε)} : List.Forall₂ s.Upgrades es yss →
      (∀ y ∈ yss.flatten, s.aggregate.handles (s.aggregate.typeOf y) = true) →
      Replays s id es (.ok ⟨id, yss.flatten.foldl s.aggregate.handle s.aggregate.initial,
        lastNumber es, []⟩)

theorem rebuilt_eq_error {xs : List ε} {err : Error} (hforms : s.currentForms id es = .ok xs)
    (hreplay : s.aggregate.replay s.aggregate.initial xs = .error err) :
    s.rebuilt id es = .error err := by
  rw [rebuilt, hforms]
  change (s.aggregate.replay s.aggregate.initial xs >>= _) = _
  rw [hreplay]
  rfl

theorem Replays.eq_rebuilt {r : Except Error (Root σ ε)} (hkeyed : ∀ e ∈ es, e.key.id = id)
    (h : s.Replays id es r) : r = s.rebuilt id es := by
  cases h with
  | @undecodable before after e yss reason hsplit hbefore hread =>
    subst hsplit
    have he : s.currentForm id e =
        .error (.serialization e.key.id e.sequence e.type reason) := by
      rw [currentForm, hread, hkeyed e (by simp)]
    rw [rebuilt, currentForms_eq_error hbefore he]
    rfl
  | @stuck before after e yss x err hsplit hbefore hread hupgrade =>
    subst hsplit
    have he : s.currentForm id e = .error err := by
      rw [currentForm, hread]
      exact hupgrade
    rw [rebuilt, currentForms_eq_error hbefore he]
    rfl
  | unhandled hforms hflat hxs hy =>
    refine (rebuilt_eq_error (currentForms_eq_ok_iff.2 ⟨_, hforms, rfl⟩) ?_).symm
    rw [hflat]
    exact Aggregate.replay_eq_error hxs hy
  | replayed hforms hall =>
    refine (rebuilt_eq_ok.2 ⟨_, _, currentForms_eq_ok_iff.2 ⟨_, hforms, rfl⟩, ?_, rfl⟩).symm
    exact Aggregate.replay_eq_foldl hall

/-- **Replaying comes to exactly one result.** -/
theorem replays_iff {r : Except Error (Root σ ε)} (hkeyed : ∀ e ∈ es, e.key.id = id) :
    s.Replays id es r ↔ r = s.rebuilt id es := by
  refine ⟨(·.eq_rebuilt hkeyed), ?_⟩
  rintro rfl
  cases hforms : s.currentForms id es with
  | error err =>
    have hresult : s.rebuilt id es = .error err := by
      rw [rebuilt, hforms]
      rfl
    rw [hresult]
    obtain ⟨before, e, after, yss, hsplit, hbefore, he⟩ := exists_of_currentForms_eq_error hforms
    cases hread : s.codec.readEvent e.payload e.type with
    | error reason =>
      rw [currentForm, hread, ← hkeyed e (by simp [hsplit])] at he
      obtain rfl := Except.error.inj he
      exact .undecodable hsplit hbefore hread
    | ok x =>
      rw [currentForm, hread] at he
      exact .stuck hsplit hbefore hread he
  | ok xs =>
    obtain ⟨yss, hyss, rfl⟩ := currentForms_eq_ok_iff.1 hforms
    cases hfind : yss.flatten.find? fun y => !s.aggregate.handles (s.aggregate.typeOf y) with
    | none =>
      have hall : ∀ y ∈ yss.flatten, s.aggregate.handles (s.aggregate.typeOf y) = true := by
        simpa using List.find?_eq_none.1 hfind
      rw [rebuilt_eq_ok.2 ⟨_, _, hforms, Aggregate.replay_eq_foldl hall, rfl⟩]
      exact .replayed hyss hall
    | some y =>
      obtain ⟨hy, xs, rest, hflat, hxs⟩ := List.find?_eq_some_iff_append.1 hfind
      have hy : s.aggregate.handles (s.aggregate.typeOf y) = false := by simpa using hy
      have hxs : ∀ x ∈ xs, s.aggregate.handles (s.aggregate.typeOf x) = true := by simpa using hxs
      rw [rebuilt_eq_error hforms (hflat ▸ Aggregate.replay_eq_error hxs hy)]
      exact .unhandled hyss hflat hxs hy

/-! ### Loads -/

/-- An aggregate that is read from storage is rebuilt from all events. -/
theorem yields_readRoot (hsnapshots : s.snapshots = none) (hes : IsStream (s.keyOf id) es) :
    Call.Yields (AtRest (s.keyOf id) es) (s.readRoot id)
      ((s.streamFrom id none es).bind fun stream =>
        (s.replayed id s.aggregate.initial stream).bind fun root => .ok (root, stream)) := by
  have hrebuild : ∀ stream, s.streamFrom id none es = .ok stream →
      Call.Yields (AtRest (s.keyOf id) es) (s.rebuild id stream)
        (s.replayed id s.aggregate.initial stream) := by
    intro stream hstream
    rw [rebuild_of_none (snapshot_of_streamFrom hstream)]
    exact .ofExcept _
  unfold readRoot
  split
  · refine Call.Yields.waiting ⟨(0 : Nat), trivial⟩ fun generation _ => ?_
    refine (yields_readStream hsnapshots hes).bind_except fun stream hstream => ?_
    refine (hrebuild stream hstream).bind_except fun root _ => ?_
    exact Call.Yields.waiting ⟨true, trivial⟩ fun _ _ => .done _
  · refine (yields_readStream hsnapshots hes).bind_except fun stream hstream => ?_
    exact (hrebuild stream hstream).bind_except fun root _ => .done _

/-- **Without snapshots and a cached stream, a load rebuilds the aggregate of all events.** -/
theorem yields_load_of_plain (hsnapshots : s.snapshots = none) (hes : IsStream (s.keyOf id) es) :
    Call.Yields (AtRest (s.keyOf id) es) (s.load id) (s.rebuilt id es) := by
  have hcached : Call.Yields (AtRest (s.keyOf id) es) (s.cachedStream id) (.ok none) := by
    unfold cachedStream
    split
    · refine Call.Yields.waiting ⟨none, rfl⟩ ?_
      rintro found rfl
      exact .done none
    · exact .done none
  have hresult : s.rebuilt id es = (((s.streamFrom id none es).bind fun stream =>
      (s.replayed id s.aggregate.initial stream).bind fun root => .ok (root, stream)).bind
        fun r => .ok r.1) := by
    have hroom : ¬greatestSequence ≤ 0 := by decide
    unfold rebuilt streamFrom
    dsimp only [Option.map_none, Option.getD_none]
    rw [if_neg hroom]
    cases s.currentForms id es with
    | error err => rfl
    | ok xs =>
      cases h : s.aggregate.replay s.aggregate.initial xs with
      | error err => simp [replayed, bind, Except.bind, Except.map, h]
      | ok st => simp [replayed, bind, pure, Except.bind, Except.pure, Except.map, h]
  have hroot : Call.Yields (AtRest (s.keyOf id) es) (s.loadRoot id)
      ((s.streamFrom id none es).bind fun stream =>
        (s.replayed id s.aggregate.initial stream).bind fun root => .ok (root, stream)) :=
    hcached.bind (yields_readRoot hsnapshots hes)
  rw [hresult]
  exact hroot.bind_except fun r _ => .done r.1

/-- A reading that fails keeps nothing: a stream is brought once the root is rebuilt, and then the
reading does not fail. -/
theorem keepsNothing_of_traces_readRoot {t : List (Exchange (storeInterface σ ε))} {err : Error}
    (h : Traces (s.readRoot id) t (.error err)) : ∀ x ∈ t, KeepsNothing x.request := by
  have hread : Asks KeepsNothing (s.readStream id) :=
    (asks_readStream id).imp fun _ => (·.keepsNothing)
  have hrebuild : ∀ stream, Asks KeepsNothing (s.rebuild id stream) :=
    asks_rebuild (fun _ => trivial) id
  unfold readRoot at h
  split at h
  · obtain ⟨generation, t, rfl, hafter⟩ := Call.traces_ask_bind_iff.1 h
    refine List.forall_mem_cons.2 ⟨trivial, ?_⟩
    rcases Call.traces_bind_iff.1 hafter with ⟨stream, t₁, t₂, rfl, h₁, h₂⟩ | ⟨_, h₁, -⟩
    case inr => exact hread.of_traces h₁
    rcases Call.traces_bind_iff.1 h₂ with ⟨root, t₃, t₄, rfl, -, h₄⟩ | ⟨_, h₃, -⟩
    case inr =>
      exact List.forall_mem_append.2 ⟨hread.of_traces h₁, (hrebuild stream).of_traces h₃⟩
    obtain ⟨kept, t, rfl, hend⟩ := Call.traces_ask_bind_iff.1 h₄
    cases hend
  · refine Asks.of_traces (hread.bind fun stream => ?_) h
    exact (hrebuild stream).bind fun root => trivial

/-- **A load that fails keeps nothing in the cache**, whatever it is answered. -/
theorem keepsNothing_of_traces_load {t : List (Exchange (storeInterface σ ε))} {err : Error}
    (h : Traces (s.load id) t (.error err)) : ∀ x ∈ t, KeepsNothing x.request := by
  rcases Call.traces_bind_iff.1 h with ⟨r, t₁, t₂, rfl, -, hend⟩ | ⟨_, hload, heq⟩
  case inl => cases hend
  obtain rfl := Except.error.inj heq
  have hcached : Asks KeepsNothing (s.cachedStream id) := by
    unfold cachedStream
    split
    · exact ⟨trivial, fun _ => trivial⟩
    · trivial
  rcases Call.traces_bind_iff.1 hload with ⟨found, t₁, t₂, rfl, h₁, h₂⟩ | ⟨_, h₁, -⟩
  case inr => exact hcached.of_traces h₁
  refine List.forall_mem_append.2 ⟨hcached.of_traces h₁, ?_⟩
  cases found with
  | some stream =>
    refine Asks.of_traces (Asks.bind ?_ fun root => ?_) h₂
    · exact asks_rebuild (fun _ => trivial) id stream
    · trivial
  | none => exact keepsNothing_of_traces_readRoot h₂

/-- A load of an aggregate while the storage holds its events `es` is a replay of them. -/
structure LoadsReplay (s : AggregateStore σ ε) (id : AggregateId) (es : List CommittedEvent) :
    Prop where
  /-- Unless a stream is cached the load ends, and always with what the replay comes to. -/
  result : ∃ r, Call.Yields (AtRest (s.keyOf id) es) (s.load id) r ∧
    ∀ r', s.Replays id es r' ↔ r' = r
  /-- A load that fails brings no stream into the cache. -/
  kept : ∀ t err, Traces (s.load id) t (.error err) → ∀ x ∈ t, KeepsNothing x.request

/-- **Without snapshots, a load yields the replay of all events, failures included.** -/
theorem loadsReplay_of_plain (hsnapshots : s.snapshots = none) (hes : IsStream (s.keyOf id) es) :
    s.LoadsReplay id es where
  result := by
    refine ⟨_, yields_load_of_plain hsnapshots hes, fun r' => replays_iff ?_⟩
    intro e he
    rw [hes.keyed e he]
    rfl
  kept _ _ := keepsNothing_of_traces_load

/-- A legacy event that a store without upgraders has no handler for, and one that nothing can be
read from, for examples. -/
def unreadableEvents : List CommittedEvent :=
  [⟨MemoryStorage.sampleKey, 1, 1, OrderEvent.itemAddedV1Type,
      (OrderEvent.itemAddedV1 "apple").encode, .empty, .ofNat 1⟩,
    ⟨MemoryStorage.sampleKey, 2, 2, OrderEvent.itemAddedType, .str "apple", .empty, .ofNat 1⟩]

/-- An event that cannot be decoded is reported, although an earlier one has no handler. -/
theorem undecodable_after_unhandled :
    OrderStore.plain.snapshots = none ∧
      IsStream (OrderStore.plain.keyOf MemoryStorage.sampleKey.id) unreadableEvents ∧
      OrderStore.plain.aggregate.handles OrderEvent.itemAddedV1Type = false ∧
      ∃ reason, Call.Yields (AtRest MemoryStorage.sampleKey unreadableEvents)
        (OrderStore.plain.load MemoryStorage.sampleKey.id)
        (.error (.serialization MemoryStorage.sampleKey.id 2 OrderEvent.itemAddedType reason)) := by
  have hes : IsStream (OrderStore.plain.keyOf MemoryStorage.sampleKey.id) unreadableEvents := by
    refine ⟨?_, ?_, ?_⟩
    · simp only [unreadableEvents, List.forall_mem_cons]
      exact ⟨rfl, rfl, nofun⟩
    · simp [unreadableEvents]
    · simp only [unreadableEvents, List.forall_mem_cons]
      exact ⟨by decide, by decide, nofun⟩
  have hfirst : OrderStore.plain.Upgrades
      ⟨MemoryStorage.sampleKey, 1, 1, OrderEvent.itemAddedV1Type,
        (OrderEvent.itemAddedV1 "apple").encode, .empty, .ofNat 1⟩ [.itemAddedV1 "apple"] :=
    ⟨.itemAddedV1 "apple", by rfl, by rfl⟩
  obtain ⟨reason, hread⟩ : ∃ reason, OrderStore.plain.codec.readEvent (.str "apple")
      OrderEvent.itemAddedType = .error reason := ⟨_, rfl⟩
  obtain ⟨r, hyields, hiff⟩ := (loadsReplay_of_plain (s := OrderStore.plain) rfl hes).result
  have hresult := (hiff _).1 (.undecodable (show unreadableEvents = [_] ++ _ :: _ from rfl)
    (.cons hfirst .nil) hread)
  exact ⟨rfl, hes, rfl, reason, hresult ▸ hyields⟩

end AggregateStore

end EventLedger
