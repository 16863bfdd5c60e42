import EventLedger.Proofs.Updates.Rivalry
import EventLedger.Proofs.Upkeep.Loads

/-!
# An aggregate begins again

Of an aggregate without events and without a snapshot nothing is known, whatever it was before.  A
store without a cache loads it as a new one, and an update that is run alone decides on the initial
state and numbers its events from one on, as the first update of all did.

## Main definitions

* `Depot.Vacant w key` — nothing of the aggregate is stored.
* `Depot.Decides` — how a store is answered whose caller decides by a function.
* `AggregateStore.Admits` — events that a store can commit to an empty stream.
* `Depot.Begins` — what the next update comes to.

## Main results

* `Depot.Vacant.eq_of_runsTo_loadRoot` — the aggregate is loaded as a new one.
* `Depot.Vacant.begins_of_commitRoot` — **what is committed is numbered from one on.**
* `Depot.Vacant.begins_of_update` — **so it is after any number of retries.**
-/

namespace EventLedger

open Call (Asks Ends RunsTo)

variable {σ ε : Type}

/-- A new aggregate. -/
def AggregateStore.newRoot (s : AggregateStore σ ε) (id : AggregateId) : Root σ ε :=
  ⟨id, s.aggregate.initial, 0, []⟩

/-- The events can be written, there are numbers for them, and the providers agree on their entries.
-/
structure AggregateStore.Admits (s : AggregateStore σ ε) (xs : List ε) : Prop where
  written : ∀ x ∈ xs, ∃ payload, s.codec.writeEvent x = .ok payload
  room : xs.length ≤ greatestSequence
  agreed : ∀ context, ¬Clash s.providers context

namespace Depot

/-- Nothing of the aggregate is stored. -/
structure Vacant (w : Depot) (key : StreamKey) : Prop where
  coherent : w.storage.events.Coherent
  events : (w.storage.events.stream key).values = []
  shelf : w.storage.shelf.load key = none

/-- The answers to a request of a store whose caller decides by `decide`. -/
def Decides (s : AggregateStore σ ε) (decide : Root σ ε → Except Error (Root σ ε)) (i : Nat)
    (w : Depot) : (q : StoreRequest σ ε) → q.Answer → Depot → Prop
  | .decide root, a, w' => a = decide root ∧ w' = w
  | q, a, w' => w.Answers s i q a w'

/-- What an update of an aggregate comes to of which nothing is stored. -/
structure Begins (s : AggregateStore σ ε) (decide : Root σ ε → Except Error (Root σ ε))
    (id : AggregateId) (w : Depot) (r : Except Error (List CommittedEvent)) (w' : Depot) :
    Prop where
  /-- If it fails, nothing is stored. -/
  failed : ∀ e, r = .error e → w' = w
  /-- Otherwise its events are numbered from one on, and are all there is. -/
  numbered : ∀ es, r = .ok es → es.map (·.sequence) = List.range' 1 es.length ∧
    (w'.storage.events.stream (s.keyOf id)).values = es
  /-- It does not fail if the events can be committed that were decided on for a new aggregate. -/
  succeeds : ∀ decided, decide (s.newRoot id) = .ok decided → s.Admits decided.uncommitted →
    ∃ es, r = .ok es ∧ es.length = decided.uncommitted.length

variable {w w' : Depot} {s : AggregateStore σ ε} {i : Nat} {id : AggregateId}
  {decide : Root σ ε → Except Error (Root σ ε)} {key : StreamKey}

theorem Decides.answers
    (hemits : ∀ root decided, decide root = .ok decided → Root.Emits s.aggregate root decided)
    {q : StoreRequest σ ε} {a : q.Answer} (h : Decides s decide i w q a w') :
    w.Answers s i q a w' := by
  cases q with
  | decide root =>
    obtain ⟨rfl, rfl⟩ := h
    exact ⟨fun decided hok => (hemits root decided hok).id_eq, rfl⟩
  | _ => exact h

/-- A store may be answered in this way. -/
theorem decides_reply (w : Depot) (s : AggregateStore σ ε)
    (hdecide : ∀ root decided, decide root = .ok decided → decided.id = root.id) (i : Nat)
    (q : StoreRequest σ ε) :
    Decides s decide i w q (reply s decide i q w).1 (reply s decide i q w).2 := by
  have hanswers := w.answers_reply s hdecide i q
  cases q with
  | decide root => exact ⟨rfl, rfl⟩
  | _ => exact hanswers

/-- What neither stores nor removes events leaves them as they are. -/
theorem events_of_leavesEvents {q : StoreRequest σ ε} {a : q.Answer} (hq : q.LeavesEvents)
    (h : w.Answers s i q a w') : w'.storage.events = w.storage.events := by
  rcases h.eq_or_serve with rfl | ⟨p, rfl, rfl⟩
  · rfl
  · unfold Depot.serve
    rcases w.storage.answer_cases (w.fired i) p with hanswer | hanswer <;> rw [hanswer]
    cases p with
    | commit => exact hq.elim
    | delete => exact hq.elim
    | _ => rfl

/-- A new aggregate has no last batch. -/
theorem redelivered_new (s : AggregateStore σ ε) (id : AggregateId) (source : Option String) :
    s.redelivered id ⟨none, [], [], 0⟩ source = .done none := by
  cases source with
  | none => rfl
  | some source => rfl

/-- An update fails whose decision fails or cannot be committed. -/
theorem Begins.refused {e : Error} (h : ∀ decided, decide (s.newRoot id) = .ok decided →
    ¬s.Admits decided.uncommitted) : Begins s decide id w (.error e) w where
  failed _ _ := rfl
  numbered := by rintro es ⟨⟩
  succeeds decided hok hadmits := absurd hadmits (h decided hok)

/-- An update stores the events that were decided on. -/
theorem Begins.committed {decided : Root σ ε} {es : List CommittedEvent}
    (hdecided : decide (s.newRoot id) = .ok decided)
    (hlength : es.length = decided.uncommitted.length)
    (hnumbered : es.map (·.sequence) = List.range' 1 es.length)
    (hall : (w'.storage.events.stream (s.keyOf id)).values = es) :
    Begins s decide id w (.ok es) w' where
  failed := by rintro e ⟨⟩
  numbered := by
    rintro _ ⟨⟩
    exact ⟨hnumbered, hall⟩
  succeeds := by
    intro other hother _
    obtain rfl : decided = other := Except.ok.inj (hdecided.symm.trans hother)
    exact ⟨es, rfl, hlength⟩

namespace Vacant

/-- **The aggregate is loaded as a new one.** -/
theorem eq_of_runsTo_loadRoot (h : w.Vacant (s.keyOf id)) (hcaching : s.caching = false)
    (hfired : w.fired i = false) {r : Except Error (Root σ ε × LoadedStream ε)}
    (hrun : RunsTo (Answers s i) (s.loadRoot id) w r w') :
    r = .ok (s.newRoot id, ⟨none, [], [], 0⟩) ∧ w' = w := by
  have hmissing : w.StartsFrom s (s.keyOf id) none s.aggregate.initial := .missing h.shelf
  have hnone : w.storage.events.load (s.keyOf id) 1 = [] := by
    rw [EventLog.load, OrderedMap.atLeast, List.map_eq_nil_iff.1 h.events]
    rfl
  have hstream : s.streamFrom id none [] = .ok ⟨none, [], [], 0⟩ :=
    AggregateStore.streamFrom_eq_ok.2 ⟨by decide, [], rfl, rfl⟩
  obtain ⟨hr, hw⟩ := hmissing.eq_of_runsTo_loadRoot hcaching hfired hrun
  rw [Option.map_none, Option.getD_none, hnone, hstream] at hr
  exact ⟨hr, hw⟩

/-- The commit of a batch whose numbers begin with one is accepted. -/
theorem commit_eq (h : w.Vacant key) {ps : List PendingEvent} (hne : ps ≠ [])
    (hnumbered : ps.map (·.sequence) = List.range' 1 ps.length)
    (hroom : ps.length ≤ greatestSequence) (b : Uuid) :
    ∃ l, w.storage.events.commit key b ps =
        (.ok (EventLog.number key b w.storage.events.lastGlobal ps), l) ∧
      (l.stream key).values = EventLog.number key b w.storage.events.lastGlobal ps := by
  have hcontinues : Continues (w.storage.events.stream key).values ps := by
    rw [h.events]
    exact ⟨hne, hnumbered, (Nat.zero_add _).trans_le hroom⟩
  have hstream : IsStream key (w.storage.events.stream key).values := by
    rw [h.events]
    exact ⟨by simp, .nil, by simp⟩
  refine ⟨_, hcontinues.commit_eq h.coherent hstream b, ?_⟩
  rw [hcontinues.values_append h.coherent hstream, h.events, List.nil_append]

/-- A commit and what follows it without storing events or failing. -/
theorem begins_of_commit (h : w.Vacant (s.keyOf id)) {b : Uuid} {ps : List PendingEvent}
    {rest : List CommittedEvent → StoreCall σ ε (List CommittedEvent)}
    {r : Except Error (List CommittedEvent)} (hne : ps ≠ [])
    (hnumbered : ps.map (·.sequence) = List.range' 1 ps.length)
    (hroom : ps.length ≤ greatestSequence)
    (hasks : ∀ es, Asks StoreRequest.LeavesEvents (rest es))
    (hends : ∀ es, Ends (fun r => r = .ok es) (rest es))
    (hrun : RunsTo (Answers s i) ((StoreCall.storage (.commit (s.keyOf id) b ps)).bind rest) w r
      w') :
    ∃ es, r = .ok es ∧ es.length = ps.length ∧ es.map (·.sequence) = List.range' 1 es.length ∧
      (w'.storage.events.stream (s.keyOf id)).values = es := by
  obtain ⟨l, hcommit, hstream⟩ := h.commit_eq hne hnumbered hroom b
  have hserve : ∀ {r w₁}, RunsTo (Answers s i)
      (StoreCall.storage (.commit (s.keyOf id) b ps) : StoreCall σ ε (List CommittedEvent)) w r w₁ →
      r = .ok (EventLog.number (s.keyOf id) b w.storage.events.lastGlobal ps) ∧
        w₁.storage.events = l := by
    intro r w₁ hrun
    have hserve : w.serve i (.commit (s.keyOf id) b ps) = (r, w₁) :=
      StoreCall.serves_of_storage hrun
    unfold Depot.serve at hserve
    rw [MemoryStorage.answer_commit, MemoryStorage.serve_commit hcommit] at hserve
    obtain ⟨rfl, rfl⟩ := Prod.mk.inj hserve
    exact ⟨rfl, rfl⟩
  obtain ⟨es, w₁, hfirst, hrest⟩ := hrun.of_bind_ok fun _ _ hfirst => ⟨_, (hserve hfirst).1⟩
  obtain ⟨hes, rfl⟩ := hserve hfirst
  obtain rfl := Except.ok.inj hes
  obtain rfl := (hends _).of_runsTo hrest
  have hevents := (hasks _).keeps_of_runsTo (Q := fun w => w.storage.events = w₁.storage.events)
    (fun hq ha hw => (events_of_leavesEvents hq ha).trans hw) hrest rfl
  refine ⟨_, rfl, EventLog.length_number .., ?_, ?_⟩
  · rw [EventLog.map_sequence_number, EventLog.length_number, hnumbered]
  · rw [hevents, hstream]

/-- **What is committed is numbered from one on.** -/
theorem begins_of_commitRoot (h : w.Vacant (s.keyOf id)) (hfired : w.fired i = false)
    {source : Option String} {stream : LoadedStream ε} {decided : Root σ ε}
    (hemits : ∀ root decided, decide root = .ok decided → Root.Emits s.aggregate root decided)
    (hdecided : decide (s.newRoot id) = .ok decided) (hne : decided.uncommitted ≠ [])
    {r : Except Error (List CommittedEvent)}
    (hrun : RunsTo (Decides s decide i) (s.commitRoot id source stream decided) w r w') :
    Begins s decide id w r w' := by
  obtain ⟨-, -, -, -, -, hversion⟩ := (hemits _ decided hdecided).spec
  change decided.version = 0 at hversion
  obtain ⟨b, w₁, hfresh, htime⟩ := RunsTo.of_ask_bind hrun
  obtain rfl : w₁ = w := hfresh
  obtain ⟨now, w₂, hnow, hprepares⟩ := RunsTo.of_ask_bind htime
  obtain rfl : w₂ = w₁ := hnow
  rcases RunsTo.of_bind hprepares with ⟨ps, w₁, hprepare, hlive⟩ | ⟨e, hprepare, rfl⟩
  case inr =>
    -- nothing was asked for that changes the storage
    obtain rfl := AggregateStore.eq_of_runsTo_pendingEvents (fun ha => ha) hprepare
    refine .refused fun other hother hadmits => ?_
    obtain rfl : decided = other := Except.ok.inj (hdecided.symm.trans hother)
    have hroom : decided.version + decided.uncommitted.length ≤ greatestSequence := by
      rw [hversion, Nat.zero_add]
      exact hadmits.room
    obtain ⟨ps, hps⟩ := (AggregateStore.ends_pendingEvents_ok hadmits.agreed _ _ _ _
      hadmits.written hroom).of_runsTo hprepare
    cases hps
  obtain rfl := AggregateStore.eq_of_runsTo_pendingEvents (fun ha => ha) hprepare
  obtain ⟨hwritten, hnumbered⟩ := (AggregateStore.ends_pendingEvents ..).of_runsTo hprepare ps rfl
  have hroom := (AggregateStore.ends_pendingEvents_room _ _ _ _ _ _
    (hversion ▸ Nat.zero_le _)).of_runsTo hprepare ps rfl
  have hcount : ps.length = decided.uncommitted.length := hwritten.length_eq.symm
  rw [hversion, ← hcount] at hnumbered hroom
  rw [Nat.zero_add] at hnumbered hroom
  obtain ⟨u, w₂, hcheck, hcommit⟩ := (hlive.imp (Decides.answers hemits)).of_bind_ok
    fun _ _ hcheck => ⟨(), (eq_of_runsTo_checkLive hfired hcheck).1⟩
  obtain rfl := (eq_of_runsTo_checkLive hfired hcheck).2
  have hsome : ps ≠ [] := by
    rintro rfl
    exact hne (List.length_eq_zero_iff.1 hcount.symm)
  obtain ⟨es, rfl, hlength, hfrom, hall⟩ :=
    h.begins_of_commit hsome hnumbered hroom
      (fun es => AggregateStore.asks_afterCommit trivial trivial trivial fun _ _ _ => trivial)
      (fun es => AggregateStore.ends_afterCommit id decided _ _ es) hcommit
  exact .committed hdecided (hlength.trans hcount) hfrom hall

variable (h : w.Vacant (s.keyOf id)) (hcaching : s.caching = false) (hfired : w.fired i = false)
  (hemits : ∀ root decided, decide root = .ok decided → Root.Emits s.aggregate root decided)

include h hcaching hfired hemits

/-- An attempt decides on a new aggregate. -/
theorem begins_of_attempt {source : Option String} {r : Except Error (List CommittedEvent)}
    (hrun : RunsTo (Decides s decide i) (s.attempt id source) w r w') :
    Begins s decide id w r w' := by
  have hloads : ∀ {r w'}, RunsTo (Decides s decide i) (s.loadRoot id) w r w' →
      r = .ok (s.newRoot id, ⟨none, [], [], 0⟩) ∧ w' = w :=
    fun hload => h.eq_of_runsTo_loadRoot hcaching hfired (hload.imp (Decides.answers hemits))
  obtain ⟨root, w₁, hload, hdecide⟩ := hrun.of_bind_ok fun _ _ hload => ⟨_, (hloads hload).1⟩
  obtain ⟨heq, rfl⟩ := hloads hload
  obtain rfl := Except.ok.inj heq
  dsimp only at hdecide
  rw [Call.bind_eq_bind, redelivered_new] at hdecide
  obtain ⟨decision, w₂, ⟨rfl, rfl⟩, hcommit⟩ := RunsTo.of_ask_bind hdecide
  cases hdecided : decide (s.newRoot id) with
  | error e =>
    rw [hdecided] at hcommit
    cases hcommit
    exact .refused fun decided hok => by cases hdecided.symm.trans hok
  | ok decided =>
    rw [hdecided] at hcommit
    change RunsTo _ (if decided.uncommitted.isEmpty then _ else _) _ _ _ at hcommit
    split at hcommit
    next hnone =>
      cases hcommit
      exact .committed hdecided (List.isEmpty_iff_length_eq_zero.1 hnone).symm rfl h.events
    next hsome =>
      exact h.begins_of_commitRoot hfired hemits hdecided (mt List.isEmpty_iff.2 hsome) hcommit

/-- An attempt that fails leaves the aggregate as it was, so that every retry begins again. -/
theorem begins_of_attempts {source : Option String} {retries done : Nat}
    {r : Except Error (List CommittedEvent)}
    (hrun : RunsTo (Decides s decide i) (s.attempts id source retries done) w r w') :
    Begins s decide id w r w' := by
  have hdrops : s.invalidate id = .done () := by
    unfold AggregateStore.invalidate
    rw [if_neg (Bool.eq_false_iff.1 hcaching)]
    rfl
  -- nothing follows an attempt that is not in conflict
  have hended : ∀ {retries done : Nat} {outcome : Except Error (List CommittedEvent)} {w₁ : Depot},
      conflicts outcome = false → Begins s decide id w outcome w₁ →
      RunsTo (Decides s decide i) (s.followUp id source retries done outcome) w₁ r w' →
      Begins s decide id w r w' := by
    intro retries done outcome w₁ hconflicts hbegins hrest
    rw [AggregateStore.followUp_of_not hconflicts] at hrest
    obtain ⟨rfl, rfl⟩ := hrest.of_ofExcept
    exact hbegins
  induction retries generalizing done with
  | zero =>
    rw [AggregateStore.attempts_eq] at hrun
    obtain ⟨outcome, w₁, hattempt, hrest⟩ := hrun.of_outcome_bind
    have hbegins := h.begins_of_attempt hcaching hfired hemits hattempt
    cases hconflicts : conflicts outcome with
    | false => exact hended hconflicts hbegins hrest
    | true =>
      rw [AggregateStore.followUp_zero hconflicts, hdrops] at hrest
      obtain ⟨rfl, rfl⟩ := hrest.of_ofExcept
      exact hbegins
  | succ retries ih =>
    rw [AggregateStore.attempts_eq] at hrun
    obtain ⟨outcome, w₁, hattempt, hrest⟩ := hrun.of_outcome_bind
    have hbegins := h.begins_of_attempt hcaching hfired hemits hattempt
    cases hconflicts : conflicts outcome with
    | false => exact hended hconflicts hbegins hrest
    | true =>
      rw [AggregateStore.followUp_succ hconflicts, hdrops] at hrest
      obtain rfl : w₁ = w := by
        cases outcome with
        | ok es => cases hconflicts
        | error e => exact hbegins.failed e rfl
      obtain ⟨cancelled, w₂, ⟨hcancelled, rfl⟩, hagain⟩ := RunsTo.of_ask_bind hrest
      cases cancelled with
      | true => cases hfired.symm.trans (hcancelled rfl)
      | false => exact ih hagain

/-- **An update that is run alone ends, and begins the stream.** -/
theorem begins_of_update (source : Option String) :
    (∃ r w', RunsTo (Decides s decide i) (s.update id source) w r w') ∧
      ∀ r w', RunsTo (Decides s decide i) (s.update id source) w r w' →
        Begins s decide id w r w' := by
  refine ⟨?_, fun r w' hrun => h.begins_of_attempts hcaching hfired hemits hrun⟩
  exact ⟨_, _, .of_runState
    (fun w q => w.decides_reply s (fun root _ hok => (hemits root _ hok).id_eq) i q) _ w⟩

end Vacant

end Depot

end EventLedger
