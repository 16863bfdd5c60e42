import EventLedger.Proofs.Updates.Attempts

/-!
# The retry loop

An update is a row of attempts.  Only an attempt that ends in conflict is followed by another, after
the cached stream was dropped and after the delay of that retry, and there is one attempt more than
retries at most.  The cached stream is dropped after the last attempt as well, if it is in conflict.
The result is that of the last attempt, unchanged.

## Main definitions

* `Round` — an attempt, with its exchanges and its outcome.
* `AggregateStore.Retries s id source retries done rounds t r` — the rounds are those of an update
  of which `retries` may follow the first and `done` were made before; together they exchange `t`,
  and the last one ends with `r`.

## Main results

* `AggregateStore.traces_attempts_iff` — **the exchanges of an update are those of such rounds.**
* `AggregateStore.Retries.pauses_eq` — the pauses are the first delays of the schedule.
-/

namespace EventLedger

open Call (Asks Ends Traces)

variable {σ ε : Type}

/-- An attempt of an update, with its exchanges and its outcome. -/
structure Round (σ ε : Type) where
  /-- The exchanges. -/
  exchanges : List (Exchange (storeInterface σ ε))
  /-- The outcome. -/
  outcome : Except Error (List CommittedEvent)

/-- Whether the outcome is a conflict with another writer. -/
def conflicts : Except Error (List CommittedEvent) → Bool
  | .ok _ => false
  | .error e => e.isConflict

/-- The exchange does not tell that the caller has cancelled. -/
def Exchange.Live : Exchange (storeInterface σ ε) → Prop
  | ⟨.isCancelled, cancelled⟩ => cancelled = false
  | ⟨.pause _, cancelled⟩ => cancelled = false
  | _ => True

/-- The delays that were waited, in order. -/
def pauses (t : List (Exchange (storeInterface σ ε))) : List Duration :=
  t.filterMap fun x =>
    match x.request with
    | .pause d => some d
    | _ => none

namespace AggregateStore

variable {s : AggregateStore σ ε} {id : AggregateId} {source : Option String}
  {t : List (Exchange (storeInterface σ ε))} {r : Except Error (List CommittedEvent)}
  {x : Round σ ε} {rounds : List (Round σ ε)} {retries done : Nat}

/-! ### Rounds -/

/-- The delay before a retry, counted from 1. -/
def delay (s : AggregateStore σ ε) (n : Nat) : Duration := s.config.backoff.backoff.delay n

/-- The drop of the cached stream, if the store uses a cache. -/
def dropped (s : AggregateStore σ ε) (id : AggregateId) : List (Exchange (storeInterface σ ε)) :=
  if s.caching then [⟨.invalidate (s.keyOf id), ()⟩] else []

/-- The exchanges of an attempt, and the drop of the cached stream if it is in conflict. -/
def settled (s : AggregateStore σ ε) (id : AggregateId) (x : Round σ ε) :
    List (Exchange (storeInterface σ ε)) :=
  x.exchanges ++ if conflicts x.outcome then s.dropped id else []

/-- The exchanges of rounds, of which the first one is the retry number `done`: between two of them
the delay of the next retry is waited. -/
def joined (s : AggregateStore σ ε) (id : AggregateId) :
    Nat → List (Round σ ε) → List (Exchange (storeInterface σ ε))
  | _, [] => []
  | _, [x] => s.settled id x
  | done, x :: y :: rest =>
    s.settled id x ++ ⟨.pause (s.delay (done + 1)), false⟩ :: joined s id (done + 1) (y :: rest)

/-- The rounds of an update of which `retries` may follow the first one and `done` were made before:
together they exchange `t`, and the last one ends with `r`. -/
structure Retries (s : AggregateStore σ ε) (id : AggregateId) (source : Option String)
    (retries done : Nat) (rounds : List (Round σ ε)) (t : List (Exchange (storeInterface σ ε)))
    (r : Except Error (List CommittedEvent)) : Prop where
  /-- Each round is an attempt of the update; -/
  attempted : ∀ x ∈ rounds, Traces (s.attempt id source) x.exchanges x.outcome
  /-- all but the last are in conflict, -/
  conflicting : ∀ x ∈ rounds.dropLast, conflicts x.outcome = true
  /-- and the last one ends with the result. -/
  last : ∃ x, rounds.getLast? = some x ∧ x.outcome = r
  /-- There is one round more than retries at most, -/
  bounded : rounds.length ≤ retries + 1
  /-- and as many if the last one is in conflict. -/
  exhausted : conflicts r = true → rounds.length = retries + 1
  /-- Nothing else is exchanged than by these rounds, the drops of the cached stream after those in
  conflict, and the delays between them. -/
  exchanged : t = s.joined id done rounds

/-- A round that is not in conflict is the only one. -/
theorem Retries.ended (h : Traces (s.attempt id source) x.exchanges x.outcome)
    (hno : conflicts x.outcome = false) :
    s.Retries id source retries done [x] x.exchanges x.outcome where
  attempted := by simpa using h
  conflicting := by simp
  last := ⟨x, rfl, rfl⟩
  bounded := by simp
  exhausted hyes := by simp [hno] at hyes
  exchanged := by simp [joined, settled, hno]

/-- Without retries a round in conflict is the only one. -/
theorem Retries.givenUp (h : Traces (s.attempt id source) x.exchanges x.outcome)
    (hyes : conflicts x.outcome = true) :
    s.Retries id source 0 done [x] (x.exchanges ++ s.dropped id) x.outcome where
  attempted := by simpa using h
  conflicting := by simp
  last := ⟨x, rfl, rfl⟩
  bounded := by simp
  exhausted _ := rfl
  exchanged := by simp [joined, settled, hyes]

/-- With retries left a round in conflict is followed by others. -/
theorem Retries.again (h : Traces (s.attempt id source) x.exchanges x.outcome)
    (hyes : conflicts x.outcome = true)
    (hrest : s.Retries id source retries (done + 1) rounds t r) :
    s.Retries id source (retries + 1) done (x :: rounds)
      (x.exchanges ++ s.dropped id ++ ⟨.pause (s.delay (done + 1)), false⟩ :: t) r := by
  obtain ⟨hattempted, hconflicting, hlast, hbounded, hexhausted, hexchanged⟩ := hrest
  cases rounds with
  | nil =>
    obtain ⟨y, hy, -⟩ := hlast
    cases hy
  | cons y rest =>
    refine ⟨List.forall_mem_cons.2 ⟨h, hattempted⟩, ?_, ?_, ?_, ?_, ?_⟩
    · rw [List.dropLast_cons_cons]
      exact List.forall_mem_cons.2 ⟨hyes, hconflicting⟩
    · rw [List.getLast?_cons_cons]
      exact hlast
    · exact Nat.succ_le_succ hbounded
    · intro hr
      exact congrArg Nat.succ (hexhausted hr)
    · rw [joined, settled, if_pos hyes, hexchanged]

/-! ### Pauses -/

theorem pauses_append (t t' : List (Exchange (storeInterface σ ε))) :
    pauses (t ++ t') = pauses t ++ pauses t' :=
  List.filterMap_append

theorem pauses_eq_nil (h : ∀ x ∈ t, ∀ d, x.request ≠ .pause d) : pauses t = [] := by
  refine List.filterMap_eq_nil_iff.2 fun x hx => ?_
  obtain ⟨q, a⟩ := x
  cases q with
  | pause d => exact absurd rfl (h _ hx d)
  | _ => rfl

/-- A round does not wait. -/
theorem pauses_settled (h : Traces (s.attempt id source) x.exchanges x.outcome) :
    pauses (s.settled id x) = [] := by
  refine pauses_eq_nil fun y hy d hd => ?_
  rcases List.mem_append.1 hy with hy | hy
  · exact (afresh_of_attempt h).not_pause y hy d hd
  · unfold dropped at hy
    split at hy
    · split at hy
      · obtain rfl := List.mem_singleton.1 hy
        cases hd
      · cases hy
    · cases hy

/-- **The pauses are the first delays of the schedule**, one less than there are rounds. -/
theorem Retries.pauses_eq (h : s.Retries id source retries done rounds t r) :
    pauses t = (List.range' (done + 1) (rounds.length - 1)).map s.delay := by
  obtain ⟨hattempted, -, -, -, -, rfl⟩ := h
  induction rounds generalizing done with
  | nil => rfl
  | cons x rounds ih =>
    obtain ⟨hx, hrest⟩ := List.forall_mem_cons.1 hattempted
    cases rounds with
    | nil => exact pauses_settled hx
    | cons y rest =>
      have hpause : pauses (⟨.pause (s.delay (done + 1)), false⟩ ::
          s.joined id (done + 1) (y :: rest)) =
          s.delay (done + 1) :: pauses (s.joined id (done + 1) (y :: rest)) := rfl
      rw [joined, pauses_append, pauses_settled hx, List.nil_append, hpause, ih hrest]
      simp only [List.length_cons, Nat.add_sub_cancel, List.range'_succ, List.map_cons]

/-! ### Exchanges of the loop -/

theorem traces_invalidate_iff {r : Except Error Unit} :
    Traces (s.invalidate id) t r ↔ t = s.dropped id ∧ r = .ok () := by
  unfold invalidate dropped
  split
  · refine Call.traces_waiting_iff.trans ?_
    constructor
    · rintro ⟨_, rest, rfl, ⟨⟩⟩
      exact ⟨rfl, rfl⟩
    · rintro ⟨rfl, rfl⟩
      exact ⟨(), [], rfl, .done ()⟩
  · exact Call.traces_done_iff

theorem traces_invalidate_bind_iff {α : Type} {f : Unit → StoreCall σ ε α} {r : Except Error α} :
    Traces ((s.invalidate id).bind f) t r ↔
      ∃ rest, t = s.dropped id ++ rest ∧ Traces (f ()) rest r := by
  rw [Call.traces_bind_iff]
  simp only [traces_invalidate_iff]
  constructor
  · rintro (⟨_, _, rest, rfl, ⟨rfl, -⟩, h⟩ | ⟨e, ⟨-, he⟩, -⟩)
    · exact ⟨rest, rfl, h⟩
    · cases he
  · rintro ⟨rest, rfl, h⟩
    exact .inl ⟨(), _, rest, rfl, ⟨rfl, trivial⟩, h⟩

/-- What follows a delay is exchanged if the caller does not cancel meanwhile. -/
theorem traces_pause_bind_iff {α : Type} {d : Duration} {f : Unit → StoreCall σ ε α}
    {r : Except Error α} :
    Traces ((StoreCall.pause d).bind f) t r ↔
      (∃ rest, t = ⟨.pause d, false⟩ :: rest ∧ Traces (f ()) rest r) ∨
        t = [⟨.pause d, true⟩] ∧ r = .error .cancelled := by
  refine Call.traces_waiting_iff.trans ?_
  constructor
  · rintro ⟨cancelled, rest, rfl, h⟩
    cases cancelled with
    | false => exact .inl ⟨rest, rfl, h⟩
    | true =>
      cases h
      exact .inr ⟨rfl, rfl⟩
  · rintro (⟨rest, rfl, h⟩ | ⟨rfl, rfl⟩)
    · exact ⟨false, rest, rfl, h⟩
    · exact ⟨true, [], rfl, .failed _⟩

/-- What follows an attempt if `retries` more are left and `done` were made before: nothing, unless
it is in conflict. -/
def followUp (s : AggregateStore σ ε) (id : AggregateId) (source : Option String)
    (retries done : Nat) (outcome : Except Error (List CommittedEvent)) :
    StoreCall σ ε (List CommittedEvent) :=
  if conflicts outcome then
    (s.invalidate id).bind fun _ =>
      match retries with
      | 0 => Call.ofExcept outcome
      | n + 1 => (StoreCall.pause (s.delay (done + 1))).bind fun _ =>
        s.attempts id source n (done + 1)
  else Call.ofExcept outcome

theorem attempts_eq : s.attempts id source retries done =
    (s.attempt id source).outcome.bind (s.followUp id source retries done) := by
  cases retries with
  | zero =>
    refine congrArg (Call.bind _) (funext fun outcome => ?_)
    cases outcome with
    | ok committed => rfl
    | error e => rfl
  | succ n =>
    refine congrArg (Call.bind _) (funext fun outcome => ?_)
    cases outcome with
    | ok committed => rfl
    | error e => rfl

theorem followUp_of_not {outcome : Except Error (List CommittedEvent)}
    (hno : conflicts outcome = false) :
    s.followUp id source retries done outcome = Call.ofExcept outcome := by
  unfold followUp
  rw [if_neg (Bool.eq_false_iff.1 hno)]

theorem followUp_zero {outcome : Except Error (List CommittedEvent)}
    (hyes : conflicts outcome = true) :
    s.followUp id source 0 done outcome =
      (s.invalidate id).bind fun _ => Call.ofExcept outcome := by
  unfold followUp
  rw [if_pos hyes]

theorem followUp_succ {outcome : Except Error (List CommittedEvent)}
    (hyes : conflicts outcome = true) :
    s.followUp id source (retries + 1) done outcome = (s.invalidate id).bind fun _ =>
      (StoreCall.pause (s.delay (done + 1))).bind fun _ =>
        s.attempts id source retries (done + 1) := by
  unfold followUp
  rw [if_pos hyes]

/-- Nothing is exchanged after a round that is not in conflict. -/
theorem Retries.of_followUp {outcome : Except Error (List CommittedEvent)}
    {t₁ t₂ : List (Exchange (storeInterface σ ε))} (h : Traces (s.attempt id source) t₁ outcome)
    (hno : conflicts outcome = false)
    (hrest : Traces (s.followUp id source retries done outcome) t₂ r) :
    s.Retries id source retries done [⟨t₁, outcome⟩] (t₁ ++ t₂) r := by
  rw [followUp_of_not hno] at hrest
  obtain ⟨rfl, rfl⟩ := Call.traces_ofExcept_iff.1 hrest
  rw [List.append_nil]
  exact .ended (x := ⟨t₁, _⟩) h hno

/-- The exchanges of an update are those of rounds. -/
theorem exists_rounds_of_attempts (ht : ∀ x ∈ t, x.Live)
    (h : Traces (s.attempts id source retries done) t r) :
    ∃ rounds, s.Retries id source retries done rounds t r := by
  induction retries generalizing done t with
  | zero =>
    rw [attempts_eq] at h
    obtain ⟨outcome, t₁, t₂, rfl, hattempt, hrest⟩ := Call.traces_outcome_bind_iff.1 h
    cases hconflicts : conflicts outcome with
    | false => exact ⟨_, .of_followUp hattempt hconflicts hrest⟩
    | true =>
      rw [followUp_zero hconflicts] at hrest
      obtain ⟨rest, rfl, hend⟩ := traces_invalidate_bind_iff.1 hrest
      obtain ⟨rfl, rfl⟩ := Call.traces_ofExcept_iff.1 hend
      rw [List.append_nil]
      exact ⟨_, .givenUp (x := ⟨t₁, _⟩) hattempt hconflicts⟩
  | succ retries ih =>
    rw [attempts_eq] at h
    obtain ⟨outcome, t₁, t₂, rfl, hattempt, hrest⟩ := Call.traces_outcome_bind_iff.1 h
    cases hconflicts : conflicts outcome with
    | false => exact ⟨_, .of_followUp hattempt hconflicts hrest⟩
    | true =>
      rw [followUp_succ hconflicts] at hrest
      obtain ⟨rest, rfl, hpause⟩ := traces_invalidate_bind_iff.1 hrest
      have hlive := (List.forall_mem_append.1 (List.forall_mem_append.1 ht).2).2
      rcases traces_pause_bind_iff.1 hpause with ⟨others, rfl, hothers⟩ | ⟨rfl, -⟩
      case inr => cases hlive _ List.mem_cons_self
      obtain ⟨rounds, hrounds⟩ := ih (List.forall_mem_cons.1 hlive).2 hothers
      rw [← List.append_assoc]
      exact ⟨_, .again (x := ⟨t₁, _⟩) hattempt hconflicts hrounds⟩

/-- Rounds make up the exchanges of an update. -/
theorem Retries.traces (h : s.Retries id source retries done rounds t r) :
    Traces (s.attempts id source retries done) t r := by
  obtain ⟨hattempted, hconflicting, ⟨last, hlast, hr⟩, hbounded, hexhausted, rfl⟩ := h
  induction rounds generalizing retries done with
  | nil => cases hlast
  | cons x rounds ih =>
    rw [attempts_eq, Call.traces_outcome_bind_iff]
    cases rounds with
    | nil =>
      obtain rfl : x = last := Option.some.inj hlast
      refine ⟨x.outcome, x.exchanges, _, rfl, hattempted x (by simp), ?_⟩
      cases hconflicts : conflicts x.outcome with
      | false =>
        rw [followUp_of_not hconflicts]
        exact Call.traces_ofExcept_iff.2 ⟨rfl, hr.symm⟩
      | true =>
        -- no retry is left after the last round in conflict
        obtain rfl : 0 = retries := Nat.succ.inj (hexhausted (hr ▸ hconflicts))
        rw [followUp_zero hconflicts, traces_invalidate_bind_iff]
        exact ⟨[], (List.append_nil _).symm, Call.traces_ofExcept_iff.2 ⟨rfl, hr.symm⟩⟩
    | cons y rest =>
      obtain ⟨hx, hrest⟩ := List.forall_mem_cons.1 hattempted
      rw [List.dropLast_cons_cons] at hconflicting
      obtain ⟨hconflicts, hconflicting⟩ := List.forall_mem_cons.1 hconflicting
      rw [List.getLast?_cons_cons] at hlast
      obtain ⟨n, rfl⟩ : ∃ n, retries = n + 1 := ⟨retries - 1, by
        simp only [List.length_cons] at hbounded
        omega⟩
      have hothers : Traces (s.attempts id source n (done + 1))
          (s.joined id (done + 1) (y :: rest)) r :=
        ih hrest hconflicting (Nat.le_of_succ_le_succ hbounded)
          (fun hr => Nat.succ.inj (hexhausted hr)) hlast
      refine ⟨x.outcome, x.exchanges, s.dropped id ++
        ⟨.pause (s.delay (done + 1)), false⟩ :: s.joined id (done + 1) (y :: rest), ?_, hx, ?_⟩
      · rw [joined, settled, if_pos hconflicts, List.append_assoc]
      · rw [followUp_succ hconflicts, traces_invalidate_bind_iff]
        exact ⟨_, rfl, traces_pause_bind_iff.2 (.inl ⟨_, rfl, hothers⟩)⟩

/-- **The exchanges of an update are those of its rounds**, as long as its caller does not cancel.
-/
theorem traces_attempts_iff (ht : ∀ x ∈ t, x.Live) :
    Traces (s.attempts id source retries done) t r ↔
      ∃ rounds, s.Retries id source retries done rounds t r :=
  ⟨exists_rounds_of_attempts ht, fun ⟨_, h⟩ => h.traces⟩

end AggregateStore

end EventLedger
