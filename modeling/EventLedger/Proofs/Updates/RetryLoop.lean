import EventLedger.Orders.Store
import EventLedger.Proofs.Orders.Payloads
import EventLedger.Proofs.Updates.Rivalry

/-!
# Updates in conflict

What an update comes to whose attempts are in conflict: how many there are, how long it waits, what
a later attempt knows of an earlier one, and what a stream holds when the conflicts are over.

## Main definitions

* `Rivalry.Settles s id k retries d r d'` — what an update behind the rival comes to.
* `AggregateStore.RetryLoop s id` — what the updates of an aggregate do about conflicts.

## Main results

* `Rivalry.settles_of_attempts` — behind the rival, an update asks for one commit for each conflict
  that it may retry, and one more.
* `AggregateStore.retryLoop_of_update` — **updates retry conflicts, and nothing else, as often as
  the settings say.**
-/

namespace EventLedger

open Call (RunsTo Traces)

variable {σ ε : Type}

namespace Rivalry

variable {s : AggregateStore σ ε} {id : AggregateId} {k : Nat}
  {decide : Root σ ε → Except Error (Root σ ε)} {w w' : Rivalry ε}

/-! ### The loop -/

/-- What an update comes to that ends with `r` and of which `retries` attempts may follow the first.
-/
structure Settles (s : AggregateStore σ ε) (id : AggregateId) (k retries : Nat)
    (d : Simulation.Doubles) (r : Except Error (List CommittedEvent)) (d' : Simulation.Doubles) :
    Prop where
  /-- One commit is asked for behind each conflict that is retried, and one more. -/
  commits : d'.attempts = d.attempts + (min d.conflicts retries + 1)
  /-- Each of them leaves one batch behind. -/
  stored : ∃ new, d'.stored (s.keyOf id) = d.stored (s.keyOf id) ++ new ∧
    new.length = (min d.conflicts retries + 1) * k
  /-- The update succeeds if the conflicts do not outlast the retries, -/
  succeeds : d.conflicts ≤ retries → ∃ es, r = .ok es ∧ es.length = k
  /-- and otherwise is in conflict. -/
  fails : retries < d.conflicts → conflicts r = true

theorem eq_of_invalidate {r : Except Error Unit}
    (hrun : RunsTo (Serves s decide) (s.invalidate id) w r w') :
    r = .ok () ∧ w'.doubles = w.doubles ∧
      (s.caching = true → w'.cache.entry? (s.keyOf id) = none) := by
  unfold AggregateStore.invalidate at hrun
  split at hrun
  · obtain ⟨_, hr, rfl⟩ := RunsTo.of_ask hrun
    refine ⟨hr, rfl, fun _ => Option.eq_none_iff_forall_ne_some.2 fun entry he => ?_⟩
    exact (StreamCache.entry?_invalidate_iff.1 he).1 rfl
  next hcaching =>
    cases hrun
    exact ⟨rfl, rfl, fun h => absurd h hcaching⟩

theorem eq_of_pause {d : Duration} {r : Except Error Unit}
    (hrun : RunsTo (Serves s decide) (StoreCall.pause d) w r w') : r = .ok () ∧ w' = w := by
  obtain ⟨cancelled, w₁, ⟨rfl, rfl⟩, hrest⟩ := RunsTo.of_ask_bind hrun
  cases hrest
  exact ⟨rfl, rfl⟩

variable {retries done : Nat} {outcome r : Except Error (List CommittedEvent)}
  {d d₁ d' : Simulation.Doubles}

/-- Without a conflict left, an attempt is the last one. -/
theorem Strikes.settles_alone {w₁ : Rivalry ε} (h : Strikes s id k d outcome w₁.doubles)
    (hnone : d.conflicts = 0)
    (hfollow : RunsTo (Serves s decide) (s.followUp id none retries done outcome) w₁ r w') :
    Settles s id k retries d r w'.doubles := by
  obtain ⟨es, rfl, hes⟩ := h.alone hnone
  rw [AggregateStore.followUp_of_not rfl] at hfollow
  obtain ⟨rfl, rfl⟩ := hfollow.of_ofExcept
  have hmin : min d.conflicts retries + 1 = 1 := by omega
  obtain ⟨new, hnew, hlength⟩ := h.stored
  refine ⟨?_, ⟨new, hnew, ?_⟩, fun _ => ⟨es, rfl, hes⟩, fun hmany => by omega⟩
  · rw [hmin]
    exact h.commits
  · rw [hmin, Nat.one_mul]
    exact hlength

/-- Without a retry left, an attempt in conflict is the last one. -/
theorem Strikes.settles_exhausted {n : Nat} (h : Strikes s id k d outcome d')
    (hsome : d.conflicts = n + 1) : Settles s id k 0 d outcome d' := by
  obtain ⟨new, hnew, hlength⟩ := h.stored
  refine ⟨?_, ⟨new, hnew, ?_⟩, fun hfew => by omega, fun _ => (h.behind n hsome).1⟩
  · rw [Nat.min_zero]
    exact h.commits
  · rw [Nat.min_zero, Nat.zero_add, Nat.one_mul]
    exact hlength

/-- An attempt in conflict adds a commit and a batch to those of the attempts after it. -/
theorem Strikes.settles_retried {n : Nat} (h : Strikes s id k d outcome d₁)
    (hsome : d.conflicts = n + 1) (hrest : Settles s id k retries d₁ r d') :
    Settles s id k (retries + 1) d r d' := by
  have hmin : min d.conflicts (retries + 1) = min n retries + 1 := by omega
  have hmore : (min n retries + 1 + 1) * k = (min n retries + 1) * k + k := Nat.add_one_mul _ k
  obtain ⟨hcommits, ⟨new, hnew, hlength⟩, -, hbehind⟩ := h
  obtain ⟨-, hleft, -, -⟩ := hbehind n hsome
  obtain ⟨hcommits', ⟨new', hnew', hlength'⟩, hsucceeds, hfails⟩ := hrest
  rw [hleft] at hcommits' hlength' hsucceeds hfails
  refine ⟨?_, ⟨new ++ new', ?_, ?_⟩, fun hfew => hsucceeds (by omega),
    fun hmany => hfails (by omega)⟩
  · rw [hcommits', hcommits, hmin]
    omega
  · rw [hnew', hnew, List.append_assoc]
  · rw [List.length_append, hlength, hlength', hmin, hmore, Nat.add_comm]

/-- **Behind the rival, an update by a steady decision asks for one commit for each conflict that it
may retry, and one more.** -/
theorem settles_of_attempts (hs : s.Steady decide k) (h : s.Contested id w)
    (hroom : lastNumber (w.doubles.stored (s.keyOf id)) +
      (min w.doubles.conflicts retries + 1) * k ≤ greatestSequence)
    (hrun : RunsTo (Serves s decide) (s.attempts id none retries done) w r w') :
    Settles s id k retries w.doubles r w'.doubles := by
  induction retries generalizing done w with
  | zero =>
    rw [Nat.min_zero, Nat.zero_add, Nat.one_mul] at hroom
    rw [AggregateStore.attempts_eq] at hrun
    obtain ⟨outcome, w₁, hattempt, hfollow⟩ := hrun.of_outcome_bind
    have hstrikes := strikes_of_attempt hs h hroom hattempt
    cases hconflicts : w.doubles.conflicts with
    | zero => exact hstrikes.settles_alone hconflicts hfollow
    | succ n =>
      rw [AggregateStore.followUp_zero (hstrikes.behind n hconflicts).1] at hfollow
      obtain ⟨u, w₂, hdrop, hend⟩ := hfollow.of_bind_ok fun _ _ h => ⟨(), (eq_of_invalidate h).1⟩
      obtain ⟨rfl, rfl⟩ := hend.of_ofExcept
      rw [(eq_of_invalidate hdrop).2.1]
      exact hstrikes.settles_exhausted hconflicts
  | succ retries ih =>
    rw [AggregateStore.attempts_eq] at hrun
    obtain ⟨outcome, w₁, hattempt, hfollow⟩ := hrun.of_outcome_bind
    have hone : k ≤ (min w.doubles.conflicts (retries + 1) + 1) * k :=
      Nat.le_mul_of_pos_left k (Nat.succ_pos _)
    have hstrikes := strikes_of_attempt hs h (by omega) hattempt
    cases hconflicts : w.doubles.conflicts with
    | zero => exact hstrikes.settles_alone hconflicts hfollow
    | succ n =>
      obtain ⟨hyes, hleft, hcalm, hlast⟩ := hstrikes.behind n hconflicts
      rw [AggregateStore.followUp_succ hyes] at hfollow
      obtain ⟨u, w₂, hdrop, hrest⟩ := hfollow.of_bind_ok fun _ _ h => ⟨(), (eq_of_invalidate h).1⟩
      obtain ⟨u', w₃, hpause, hothers⟩ := hrest.of_bind_ok fun _ _ h => ⟨(), (eq_of_pause h).1⟩
      obtain rfl := (eq_of_pause hpause).2
      obtain ⟨-, hdoubles, hdropped⟩ := eq_of_invalidate hdrop
      rw [← hdoubles] at hstrikes hleft hcalm hlast
      refine hstrikes.settles_retried hconflicts (ih ⟨hcalm, ?_⟩ ?_ hothers)
      · -- the stream that led to the conflict was dropped
        intro hcaching entry hentry
        rw [hdropped hcaching] at hentry
        cases hentry
      · have hmin : min w.doubles.conflicts (retries + 1) = min n retries + 1 := by omega
        rw [hmin, Nat.add_one_mul] at hroom
        rw [hleft, hlast]
        omega

end Rivalry

namespace AggregateStore

/-- What the updates of an aggregate do about conflicts. -/
structure RetryLoop (s : AggregateStore σ ε) (id : AggregateId) : Prop where
  /-- As long as its caller does not cancel, an update makes the exchanges of its rounds, which
  follow one another as the settings allow, and ends as the last one does. -/
  rounds : ∀ source t r, (∀ x ∈ t, x.Live) → (Traces (s.update id source) t r ↔
    ∃ rounds, s.Retries id source s.config.maxConflictRetries 0 rounds t r)
  /-- It waits for the first delays of the schedule, one less than it makes attempts. -/
  slept : ∀ source rounds t r, s.Retries id source s.config.maxConflictRetries 0 rounds t r →
    pauses t = (List.range' 1 (rounds.length - 1)).map s.config.backoff.backoff.delay
  /-- An attempt decides on a root of its own and commits what it decided. -/
  afresh : ∀ source t r, Traces (s.attempt id source) t r → s.Afresh id t
  /-- Behind a rival that commits the same events, an update whose decision emits `k` events asks
  for one commit for each conflict that it may retry and one more, each of which leaves `k` events.
  -/
  rivalled : ∀ decide k w, s.Steady decide k → s.Contested id w →
    lastNumber (w.doubles.stored (s.keyOf id)) +
      (min w.doubles.conflicts s.config.maxConflictRetries + 1) * k ≤ greatestSequence →
    (∃ r w', RunsTo (Rivalry.Serves s decide) (s.update id none) w r w') ∧
      ∀ r w', RunsTo (Rivalry.Serves s decide) (s.update id none) w r w' →
        Rivalry.Settles s id k s.config.maxConflictRetries w.doubles r w'.doubles

/-- **Updates retry conflicts, and nothing else, as often as the settings say.** -/
theorem retryLoop_of_update (s : AggregateStore σ ε) (id : AggregateId) : s.RetryLoop id where
  rounds _ _ _ ht := traces_attempts_iff ht
  slept _ _ _ _ h := h.pauses_eq
  afresh _ _ _ h := afresh_of_attempt h
  rivalled decide _ w hs h hroom :=
    ⟨(Call.Asks.of_forall (P := fun _ => True) (fun _ => trivial) _).exists_runsTo
      (fun w q _ => Rivalry.exists_serves s decide w q) w,
      fun _ _ hrun => Rivalry.settles_of_attempts hs h hroom hrun⟩

/-- An event that an order handles can be stored. -/
theorem storable_of_handles {x : OrderEvent} (h : Order.aggregate.handles x.type = true) :
    OrderStore.plain.Storable x := by
  refine ⟨x.encode, rfl, fun e htype hpayload => ⟨[x], ⟨x, ?_, rfl⟩, ?_⟩⟩
  · rw [htype, hpayload]
    exact Codec.readEvent_json_eq_ok_iff.2 ⟨OrderEvent.decode_encode x, rfl⟩
  · intro y hy
    obtain rfl := List.mem_singleton.1 hy
    exact h

/-- The decision to add apples to an order. -/
def addsApples (root : OrderRoot) : Except Error OrderRoot := root.record (.itemAdded "apple" 2)

theorem steady_addsApples : OrderStore.plain.Steady addsApples 1 where
  positive := Nat.le_refl 1
  emits root hempty := by
    refine ⟨_, rfl, .emit (e := .itemAdded "apple" 2) .refl rfl, ?_, ?_⟩
    · rw [hempty]
      rfl
    · rw [hempty]
      intro x hx
      obtain rfl := List.mem_singleton.1 hx
      exact storable_of_handles rfl
  agreed context := by
    rintro (⟨p, hp, -⟩ | hno)
    · cases hp
    · exact hno List.nodup_nil

/-- An order without events, behind one rival: two commits are asked for, and each leaves one event.
-/
theorem settles_of_one_rival : ∃ r w', RunsTo (Rivalry.Serves OrderStore.plain addsApples)
    (OrderStore.plain.update MemoryStorage.sampleKey.id none)
    ⟨{ conflicts := 1 }, .empty .zero⟩ r w' ∧ w'.doubles.attempts = 2 ∧
      (w'.doubles.stored MemoryStorage.sampleKey).length = 2 ∧
        ∃ es, r = .ok es ∧ es.length = 1 := by
  have hcontested : OrderStore.plain.Contested MemoryStorage.sampleKey.id
      ⟨{ conflicts := 1 }, .empty .zero⟩ := by
    refine ⟨⟨EventLog.coherent_empty, ⟨?_, .nil, ?_⟩, ?_, ?_⟩, ?_⟩
    · intro e he
      cases he
    · intro e he
      cases he
    · intro e he
      cases he
    · intro x hx
      cases hx
    · intro hcaching
      cases hcaching
  have hloop := retryLoop_of_update OrderStore.plain MemoryStorage.sampleKey.id
  obtain ⟨⟨r, w', hrun⟩, hall⟩ := hloop.rivalled addsApples 1 ⟨{ conflicts := 1 }, .empty .zero⟩
    steady_addsApples hcontested (by decide)
  obtain ⟨hcommits, ⟨new, hnew, hlength⟩, hsucceeds, -⟩ := hall r w' hrun
  refine ⟨r, w', hrun, hcommits, ?_, hsucceeds (by decide)⟩
  change w'.doubles.stored MemoryStorage.sampleKey = [] ++ new at hnew
  rw [hnew, List.nil_append, hlength]
  rfl

end AggregateStore

end EventLedger
