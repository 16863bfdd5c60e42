import EventLedger.Proofs.Requests
import Mathlib.Data.List.Forall2

/-!
# One attempt of an update

An attempt begins with a load of its own.  It decides on the root of that load, which carries no
event, and commits the events of that decision and no others.  So nothing that an attempt before it
emitted can reach it, or the storage through it.

## Main definitions

* `AggregateStore.BatchOf s root ps` — the batch is that of the root's events.
* `AggregateStore.Afresh s id t` — what an attempt with the exchanges `t` decides on and commits.

## Main results

* `AggregateStore.asks_commitRoot` — committing a root brings its own events only.
* `AggregateStore.afresh_of_attempt` — **nothing of an attempt reaches another one.**
-/

namespace EventLedger

open Call (Asks Ends Traces)

variable {σ ε : Type}

namespace AggregateStore

/-- The event is written as a pending one: under its type, with the payload of its stored form. -/
def Writes (s : AggregateStore σ ε) (x : ε) (p : PendingEvent) : Prop :=
  p.type = s.aggregate.typeOf x ∧ s.codec.writeEvent x = .ok p.payload

/-- The batch is that of the root's events: each is written, in order, and they are numbered right
after its version. -/
structure BatchOf (s : AggregateStore σ ε) (root : Root σ ε) (ps : List PendingEvent) : Prop where
  written : List.Forall₂ s.Writes root.uncommitted ps
  numbered : ps.map (·.sequence) = List.range' (root.version + 1) root.uncommitted.length

/-- The requests of a call that commits a root to the stream of an aggregate: a batch that it brings
is that of the root, and it asks for no decision and does not wait. -/
def Committing (s : AggregateStore σ ε) (id : AggregateId) (root : Root σ ε) :
    StoreRequest σ ε → Prop
  | .storage (.commit key _ ps) => key = s.keyOf id ∧ s.BatchOf root ps
  | .decide _ => False
  | .pause _ => False
  | _ => True

/-- What an attempt with the exchanges `t` decides on and commits. -/
inductive Afresh (s : AggregateStore σ ε) (id : AggregateId) :
    List (Exchange (storeInterface σ ε)) → Prop
  /-- The attempt ends before it decides, and has only read. -/
  | undecided {t : List (Exchange (storeInterface σ ε))} : (∀ x ∈ t, x.request.IsReading) →
      Afresh s id t
  /-- The attempt loads a root, which carries no event, may look at the last batch, decides once, on
  that root, and commits no more than what was decided. -/
  | decided {t₁ t₂ t₃ : List (Exchange (storeInterface σ ε))} {root : Root σ ε}
      {stream : LoadedStream ε} {decision : Except Error (Root σ ε)} :
      Traces (s.loadRoot id) t₁ (.ok (root, stream)) → root.IsFresh id stream →
      (∀ x ∈ t₂, x.request.IsLooking) →
      (∀ x ∈ t₃, ∃ decided, decision = .ok decided ∧ s.Committing id decided x.request) →
      Afresh s id (t₁ ++ (t₂ ++ ⟨.decide root, decision⟩ :: t₃))

variable {s : AggregateStore σ ε} {id : AggregateId} {source : Option String}
  {t : List (Exchange (storeInterface σ ε))} {r : Except Error (List CommittedEvent)}

/-! ### Requests that do not wait -/

theorem ne_pause_of_isReading {q : StoreRequest σ ε} (h : q.IsReading) (d : Duration) :
    q ≠ .pause d := by
  rintro rfl
  exact h

theorem Committing.ne_pause {root : Root σ ε} {q : StoreRequest σ ε} (h : s.Committing id root q)
    (d : Duration) : q ≠ .pause d := by
  rintro rfl
  exact h

/-! ### The batch of a root -/

theorem ends_pendingEvent (key : StreamKey) (number : Nat) (timestamp : String) (b : Uuid)
    (source : Option String) (x : ε) :
    Ends (fun r => ∀ p, r = .ok p → s.Writes x p ∧ p.sequence = number)
      (s.pendingEvent key number timestamp b source x) := by
  have herror : ∀ (e : Error) (p : PendingEvent), Except.error e = .ok p →
      s.Writes x p ∧ p.sequence = number := by
    rintro e p ⟨⟩
  unfold pendingEvent
  dsimp only
  split
  next reason _ => exact herror _
  next payload hpayload =>
    refine Ends.bind_of_forall (fun entries => ?_) herror
    refine Ends.bind_of_forall (fun metadata => ?_) herror
    rintro p ⟨⟩
    exact ⟨⟨rfl, hpayload⟩, rfl⟩

/-- Events are prepared in order, as they are written, under the next numbers. -/
theorem ends_pendingEvents (key : StreamKey) (timestamp : String) (b : Uuid)
    (source : Option String) : ∀ (version : Nat) (xs : List ε),
    Ends (fun r => ∀ ps, r = .ok ps → List.Forall₂ s.Writes xs ps ∧
      ps.map (·.sequence) = List.range' (version + 1) xs.length)
      (s.pendingEvents key timestamp b source version xs)
  | version, [] => by
    rintro ps ⟨⟩
    exact ⟨.nil, rfl⟩
  | version, x :: xs => by
    have herror : ∀ (e : Error) (ps : List PendingEvent), Except.error e = .ok ps →
        List.Forall₂ s.Writes (x :: xs) ps ∧
          ps.map (·.sequence) = List.range' (version + 1) (x :: xs).length := by
      rintro e ps ⟨⟩
    unfold pendingEvents
    split
    · exact herror _
    · refine (ends_pendingEvent key (version + 1) timestamp b source x).bind ?_ fun e _ => herror e
      intro p hp
      obtain ⟨hwritten, hnumber⟩ := hp p rfl
      refine (ends_pendingEvents key timestamp b source (version + 1) xs).bind ?_
        fun e _ => herror e
      intro more hmore
      obtain ⟨hall, hnumbers⟩ := hmore more rfl
      rintro ps ⟨⟩
      refine ⟨.cons hwritten hall, ?_⟩
      rw [List.map_cons, hnumber, hnumbers, List.length_cons, List.range'_succ]

/-- Events are prepared only if there are numbers for them. -/
theorem ends_pendingEvents_room (key : StreamKey) (timestamp : String) (b : Uuid)
    (source : Option String) : ∀ (version : Nat) (xs : List ε), version ≤ greatestSequence →
    Ends (fun r => ∀ ps, r = .ok ps → version + xs.length ≤ greatestSequence)
      (s.pendingEvents key timestamp b source version xs)
  | version, [], hversion => fun _ _ => hversion
  | version, x :: xs, hversion => by
    have herror : ∀ (e : Error) (ps : List PendingEvent), Except.error e = .ok ps →
        version + (x :: xs).length ≤ greatestSequence := by
      rintro e ps ⟨⟩
    unfold pendingEvents
    split
    next => exact herror _
    next hroom =>
      refine Ends.bind_of_forall (fun p => ?_) herror
      refine (ends_pendingEvents_room key timestamp b source (version + 1) xs (by omega)).bind ?_
        fun e _ => herror e
      intro more hmore ps _
      rw [List.length_cons, Nat.add_comm xs.length, ← Nat.add_assoc]
      exact hmore more rfl

/-- **Committing a root brings its own events only.** -/
theorem asks_commitRoot (s : AggregateStore σ ε) (id : AggregateId) (source : Option String)
    (stream : LoadedStream ε) (root : Root σ ε) :
    Asks (s.Committing id root) (s.commitRoot id source stream root) := by
  refine ⟨trivial, fun b => ⟨trivial, fun now => ?_⟩⟩
  refine (ends_pendingEvents _ _ _ _ root.version root.uncommitted).bind_asks
    (asks_pendingEvents trivial ..) ?_
  intro ps hps
  obtain ⟨hwritten, hnumbered⟩ := hps ps rfl
  refine Asks.bind ⟨trivial, fun cancelled => by cases cancelled <;> trivial⟩ fun _ => ?_
  refine Asks.bind ⟨⟨rfl, hwritten, hnumbered⟩, fun a => .ofExcept a⟩ fun committed => ?_
  exact asks_afterCommit trivial trivial trivial fun _ _ _ => trivial

/-! ### From the load to the commit -/

/-- **Nothing of an attempt reaches another one**: it decides on a root of its own and commits what
it decided. -/
theorem afresh_of_attempt (h : Traces (s.attempt id source) t r) : s.Afresh id t := by
  rcases Call.traces_bind_iff.1 h with ⟨⟨root, stream⟩, t₁, rest, rfl, hload, hrest⟩ | ⟨e, hload, -⟩
  case inr => exact .undecided ((asks_loadRoot id).of_traces hload)
  have hreading := (asks_loadRoot id).of_traces hload
  have hfresh := (ends_loadRoot id).of_traces hload root stream rfl
  rcases Call.traces_bind_iff.1 hrest with ⟨found, t₂, rest, rfl, hfind, hgo⟩ | ⟨e, hfind, -⟩
  case inr =>
    refine .undecided (List.forall_mem_append.2 ⟨hreading, fun x hx => ?_⟩)
    exact ((asks_redelivered id stream source).of_traces hfind x hx).isReading
  have hlooking := (asks_redelivered id stream source).of_traces hfind
  cases found with
  | some batch =>
    obtain ⟨rfl, -⟩ := Call.traces_done_iff.1 hgo
    rw [List.append_nil]
    exact .undecided (List.forall_mem_append.2 ⟨hreading, fun x hx => (hlooking x hx).isReading⟩)
  | none =>
    obtain ⟨decision, t₃, rfl, hend⟩ := Call.traces_ask_bind_iff.1 hgo
    refine .decided hload hfresh hlooking ?_
    cases decision with
    | error e =>
      obtain ⟨rfl, -⟩ := Call.traces_failed_iff.1 hend
      simp
    | ok decided =>
      intro x hx
      refine ⟨decided, rfl, ?_⟩
      change Traces (if decided.uncommitted.isEmpty then _ else _) t₃ r at hend
      split at hend
      · obtain ⟨rfl, -⟩ := Call.traces_done_iff.1 hend
        cases hx
      · exact (asks_commitRoot s id source stream decided).of_traces hend x hx

/-- An attempt does not wait. -/
theorem Afresh.not_pause (h : s.Afresh id t) : ∀ x ∈ t, ∀ d, x.request ≠ .pause d := by
  intro x hx d
  cases h with
  | undecided hreading => exact ne_pause_of_isReading (hreading x hx) d
  | @decided t₁ t₂ t₃ root stream decision hload _ hlooking hcommitting =>
    rw [List.mem_append, List.mem_append, List.mem_cons] at hx
    rcases hx with hx | hx | rfl | hx
    · exact ne_pause_of_isReading ((asks_loadRoot id).of_traces hload x hx) d
    · exact ne_pause_of_isReading (hlooking x hx).isReading d
    · rintro ⟨⟩
    · obtain ⟨decided, -, hx⟩ := hcommitting x hx
      exact hx.ne_pause d

end AggregateStore

end EventLedger
