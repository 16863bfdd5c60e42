import EventLedger.Proofs.Call.Trace
import EventLedger.Proofs.Tables.Retry

/-!
# The trials of a retried operation

A retried operation is run one time after another.  A run is followed by another one only if it
failed in a way that may pass and the bound on runs is not reached, and between the two there is the
delay that the schedule gives.  The loop looks at the caller's token before each run and during each
delay, and nowhere else.

## Main definitions

* `RetryCall.Trial` — one run of the operation, with its exchanges and its outcome.
* `RetryCall.IsFinal` — the outcomes that end the loop whatever its bound.
* `RetryCall.Course` — how the loop may go, with the trials that it makes.

## Main results

* `RetryCall.traces_attemptFrom_iff` — **the exchanges of the loop are those of its courses.**
* `RetryCall.Course.length_le`, `RetryCall.Course.not_isFinal` — how many trials there are, and which
  are followed by another one.
* `RetryCall.Course.result` — the loop ends as its last trial has, unless the token ends it.
-/

namespace EventLedger.RetryCall

open Call (Asks Traces)

variable {I : Interface} {α : Type}

/-- One run of a retried operation. -/
structure Trial (I : Interface) (α : Type) where
  /-- The exchanges. -/
  exchanges : List (Exchange (retryInterface I))
  /-- The outcome. -/
  outcome : Except TableError α

/-- The trial is a run of the operation. -/
def Trial.Of (operation : RetryCall I α) (x : Trial I α) : Prop :=
  Traces operation x.exchanges x.outcome

/-- The outcomes that end the loop whatever its bound: a success, a failure of the ledger, and a
failure of the database that will not pass. -/
def IsFinal : Except TableError α → Prop
  | .ok _ => True
  | .error (.ledger _) => True
  | .error (.database f) => f.isTransient = false

instance : DecidablePred (IsFinal (α := α)) := fun o =>
  match o with
  | .ok _ => .isTrue trivial
  | .error (.ledger _) => .isTrue trivial
  | .error (.database f) => inferInstanceAs (Decidable (f.isTransient = false))

/-! ### Exchanges of the loop -/

/-- The token as it is looked at before a trial that begins. -/
def passed (heedsToken : Bool) : List (Exchange (retryInterface I)) :=
  if heedsToken then [⟨.isCancelled, false⟩] else []

/-- A delay that is waited to its end. -/
def waited (heedsToken : Bool) (d : Duration) : Exchange (retryInterface I) :=
  if heedsToken then ⟨.pause d, false⟩ else ⟨.sleep d, ()⟩

/-- A trial, with the look at the token before it. -/
def begun (heedsToken : Bool) (x : Trial I α) : List (Exchange (retryInterface I)) :=
  passed heedsToken ++ x.exchanges

/-- The notice of what is to follow trial number `n`, which has failed. -/
def notice (n : Nat) (d : Option Duration) : Exchange (retryInterface I) := ⟨.decided n d, ()⟩

/-- The notice after the last trial, if that has failed. -/
def closing (n : Nat) : Except TableError α → List (Exchange (retryInterface I))
  | .ok _ => []
  | .error _ => [notice n none]

/-- How the loop of at most `m` trials may go from trial number `n` on: the trials, all that is
exchanged, and the result. -/
inductive Course (m : Nat) (b : Backoff) (heedsToken : Bool) (operation : RetryCall I α) :
    Nat → List (Trial I α) → List (Exchange (retryInterface I)) → Except TableError α → Prop
  /-- A trial ends the loop. -/
  | last {n : Nat} {x : Trial I α} : x.Of operation → IsFinal x.outcome ∨ m ≤ n →
    Course m b heedsToken operation n [x] (begun heedsToken x ++ closing n x.outcome) x.outcome
  /-- A trial is followed by others. -/
  | again {n : Nat} {x : Trial I α} {trials : List (Trial I α)}
      {t : List (Exchange (retryInterface I))} {r : Except TableError α} :
    x.Of operation → ¬IsFinal x.outcome → n < m →
    Course m b heedsToken operation (n + 1) trials t r →
    Course m b heedsToken operation n (x :: trials)
      (begun heedsToken x ++ notice n (some (b.delay n)) :: waited heedsToken (b.delay n) :: t) r
  /-- The token has fired before a trial. -/
  | stopped {n : Nat} : heedsToken = true →
    Course m b heedsToken operation n [] [⟨.isCancelled, true⟩] (.error (.ledger .cancelled))
  /-- The token has fired during a delay. -/
  | interrupted {n : Nat} {x : Trial I α} : heedsToken = true →
    x.Of operation → ¬IsFinal x.outcome → n < m →
    Course m b heedsToken operation n [x]
      (begun heedsToken x ++ [notice n (some (b.delay n)), ⟨.pause (b.delay n), true⟩])
      (.error (.ledger .cancelled))

variable {m n further : Nat} {b : Backoff} {heedsToken : Bool} {operation : RetryCall I α}
  {t : List (Exchange (retryInterface I))} {r o : Except TableError α} {e : TableError}
  {trials : List (Trial I α)}

/-! ### The loop, exchange by exchange -/

/-- The strategy gives up exactly after a final outcome and at its bound. -/
theorem decide_transient : (RetryStrategy.transient m b).decide e n =
    if IsFinal (.error e : Except TableError α) ∨ m ≤ n then none else some (b.delay n) := by
  cases e with
  | ledger e => rfl
  | database f =>
    unfold RetryStrategy.decide IsFinal
    cases htransient : f.isTransient <;> by_cases hn : n < m <;> simp [htransient, hn, ← Nat.not_lt]

/-- Whoever is told by `x` whether the token has fired goes on or is cancelled. -/
theorem exists_told_iff {x : Bool → Exchange (retryInterface I)} {f : Unit → RetryCall I α} :
    (∃ cancelled rest, t = x cancelled :: rest ∧ Traces
        ((if cancelled then Call.fail (.ledger .cancelled) else pure () : RetryCall I Unit).bind f)
        rest r) ↔
      (∃ rest, t = x false :: rest ∧ Traces (f ()) rest r) ∨
        t = [x true] ∧ r = .error (.ledger .cancelled) := by
  constructor
  · rintro ⟨cancelled, rest, rfl, h⟩
    cases cancelled with
    | false => exact .inl ⟨rest, rfl, h⟩
    | true =>
      cases h
      exact .inr ⟨rfl, rfl⟩
  · rintro (⟨rest, rfl, h⟩ | ⟨rfl, rfl⟩)
    · exact ⟨false, rest, rfl, h⟩
    · exact ⟨true, [], rfl, .failed _⟩

theorem traces_checkLive_bind_iff {f : Unit → RetryCall I α} :
    Traces ((checkLive heedsToken).bind f) t r ↔
      (∃ rest, t = passed heedsToken ++ rest ∧ Traces (f ()) rest r) ∨
        heedsToken = true ∧ t = [⟨.isCancelled, true⟩] ∧ r = .error (.ledger .cancelled) := by
  cases heedsToken with
  | false =>
    constructor
    · intro h
      exact .inl ⟨t, rfl, h⟩
    · rintro (⟨rest, rfl, h⟩ | ⟨⟨⟩, -⟩)
      exact h
  | true =>
    refine Call.traces_waiting_iff.trans (exists_told_iff.trans (or_congr_right ?_))
    exact (and_iff_right rfl).symm

theorem traces_delay_bind_iff {d : Duration} {f : Unit → RetryCall I α} :
    Traces ((delay heedsToken d).bind f) t r ↔
      (∃ rest, t = waited heedsToken d :: rest ∧ Traces (f ()) rest r) ∨
        heedsToken = true ∧ t = [⟨.pause d, true⟩] ∧ r = .error (.ledger .cancelled) := by
  cases heedsToken with
  | false =>
    refine Call.traces_waiting_iff.trans ?_
    constructor
    · rintro ⟨_, rest, rfl, h⟩
      exact .inl ⟨rest, rfl, h⟩
    · rintro (⟨rest, rfl, h⟩ | ⟨⟨⟩, -⟩)
      exact ⟨(), rest, rfl, h⟩
  | true =>
    refine Call.traces_waiting_iff.trans (exists_told_iff.trans (or_congr_right ?_))
    exact (and_iff_right rfl).symm

/-- What follows the notice after trial number `n` has failed, of which `further` more are left. -/
def goOn (s : RetryStrategy) (heedsToken : Bool) (operation : RetryCall I α) (n : Nat)
    (e : TableError) : Option Duration → Nat → RetryCall I α
  | some d, further + 1 =>
    (delay heedsToken d).bind fun _ => attemptFrom s heedsToken operation further (n + 1)
  | _, _ => .failed e

/-- What follows trial number `n`, of which `further` more are left. -/
def followUp (s : RetryStrategy) (heedsToken : Bool) (operation : RetryCall I α) (further n : Nat) :
    Except TableError α → RetryCall I α
  | .ok a => .done a
  | .error e => (decided n (s.decide e n)).bind fun _ =>
    goOn s heedsToken operation n e (s.decide e n) further

/-- The loop is stopped before a trial, or makes it and goes on. -/
theorem traces_trial_iff {s : RetryStrategy} :
    Traces (attemptFrom s heedsToken operation further n) t r ↔
      (∃ (x : Trial I α) (rest : _), x.Of operation ∧ t = begun heedsToken x ++ rest ∧
        Traces (followUp s heedsToken operation further n x.outcome) rest r) ∨
        heedsToken = true ∧ t = [⟨.isCancelled, true⟩] ∧ r = .error (.ledger .cancelled) := by
  rw [attemptFrom_eq, traces_checkLive_bind_iff]
  refine or_congr_left ⟨?_, ?_⟩
  · rintro ⟨_, rfl, h⟩
    obtain ⟨o, t₁, t₂, rfl, hx, hrest⟩ := Call.traces_outcome_bind_iff.1 h
    refine ⟨⟨t₁, o⟩, t₂, hx, (List.append_assoc ..).symm, ?_⟩
    cases o <;> exact hrest
  · rintro ⟨⟨t₁, o⟩, t₂, hx, rfl, hrest⟩
    refine ⟨_, List.append_assoc .., Call.traces_outcome_bind_iff.2 ⟨o, t₁, t₂, rfl, hx, ?_⟩⟩
    cases o <;> exact hrest

/-- After a trial that ends the loop there is nothing but the notice. -/
theorem traces_followUp_last_iff (h : IsFinal o ∨ m ≤ n) :
    Traces (followUp (.transient m b) heedsToken operation further n o) t r ↔
      t = closing n o ∧ r = o := by
  cases o with
  | ok a => exact Call.traces_done_iff
  | error e =>
    rw [followUp, decide_transient (α := α), if_pos h]
    refine Call.traces_waiting_iff.trans ?_
    constructor
    · rintro ⟨_, _, rfl, hend⟩
      obtain ⟨rfl, rfl⟩ := Call.traces_failed_iff.1 hend
      exact ⟨rfl, rfl⟩
    · rintro ⟨rfl, rfl⟩
      exact ⟨(), [], rfl, .failed e⟩

/-- After any other trial there is the notice and the delay, and then the loop goes on unless the
token has fired. -/
theorem traces_followUp_again_iff (hfinal : ¬IsFinal o) (hn : n < m) :
    Traces (followUp (.transient m b) heedsToken operation (further + 1) n o) t r ↔
      (∃ rest, t = notice n (some (b.delay n)) :: waited heedsToken (b.delay n) :: rest ∧
        Traces (attemptFrom (.transient m b) heedsToken operation further (n + 1)) rest r) ∨
        heedsToken = true ∧
          t = [notice n (some (b.delay n)), ⟨.pause (b.delay n), true⟩] ∧
          r = .error (.ledger .cancelled) := by
  cases o with
  | ok a => exact absurd trivial hfinal
  | error e =>
    have hnot : ¬(IsFinal (.error e : Except TableError α) ∨ m ≤ n) :=
      not_or.2 ⟨hfinal, Nat.not_le.2 hn⟩
    rw [followUp, decide_transient (α := α), if_neg hnot]
    refine Call.traces_waiting_iff.trans ?_
    constructor
    · rintro ⟨_, _, rfl, hdelay⟩
      rcases traces_delay_bind_iff.1 hdelay with ⟨rest, rfl, h⟩ | ⟨hheeds, rfl, rfl⟩
      · exact .inl ⟨rest, rfl, h⟩
      · exact .inr ⟨hheeds, rfl, rfl⟩
    · rintro (⟨rest, rfl, h⟩ | ⟨hheeds, rfl, rfl⟩)
      · exact ⟨(), _, rfl, traces_delay_bind_iff.2 (.inl ⟨rest, rfl, h⟩)⟩
      · exact ⟨(), _, rfl, traces_delay_bind_iff.2 (.inr ⟨hheeds, rfl, rfl⟩)⟩

/-! ### Courses -/

/-- What the loop exchanges is a course of it. -/
theorem exists_course_of_traces (hfurther : further = m - n)
    (h : Traces (attemptFrom (.transient m b) heedsToken operation further n) t r) :
    ∃ trials, Course m b heedsToken operation n trials t r := by
  induction further generalizing n t with
  | zero =>
    rcases traces_trial_iff.1 h with ⟨x, rest, hx, rfl, hrest⟩ | ⟨hheeds, rfl, rfl⟩
    · have hlast : IsFinal x.outcome ∨ m ≤ n := .inr (by omega)
      obtain ⟨rfl, rfl⟩ := (traces_followUp_last_iff hlast).1 hrest
      exact ⟨_, .last hx hlast⟩
    · exact ⟨_, .stopped hheeds⟩
  | succ further ih =>
    have hn : n < m := by omega
    rcases traces_trial_iff.1 h with ⟨x, rest, hx, rfl, hrest⟩ | ⟨hheeds, rfl, rfl⟩
    · by_cases hfinal : IsFinal x.outcome
      · obtain ⟨rfl, rfl⟩ := (traces_followUp_last_iff (.inl hfinal)).1 hrest
        exact ⟨_, .last hx (.inl hfinal)⟩
      · rcases (traces_followUp_again_iff hfinal hn).1 hrest with
          ⟨others, rfl, hothers⟩ | ⟨hheeds, rfl, rfl⟩
        · obtain ⟨trials, hcourse⟩ := ih (by omega) hothers
          exact ⟨_, .again hx hfinal hn hcourse⟩
        · exact ⟨_, .interrupted hheeds hx hfinal hn⟩
    · exact ⟨_, .stopped hheeds⟩

/-- The loop exchanges each of its courses. -/
theorem Course.traces (h : Course m b heedsToken operation n trials t r)
    (hfurther : further = m - n) :
    Traces (attemptFrom (.transient m b) heedsToken operation further n) t r := by
  induction h generalizing further with
  | last hx hlast =>
    exact traces_trial_iff.2 (.inl ⟨_, _, hx, rfl, (traces_followUp_last_iff hlast).2 ⟨rfl, rfl⟩⟩)
  | @again n x trials t r hx hfinal hn _ ih =>
    obtain ⟨left, rfl⟩ : ∃ left, further = left + 1 := ⟨m - (n + 1), by omega⟩
    have hrest : Traces (attemptFrom (.transient m b) heedsToken operation left (n + 1)) t r :=
      ih (by omega)
    exact traces_trial_iff.2 (.inl ⟨x, _, hx, rfl,
      (traces_followUp_again_iff hfinal hn).2 (.inl ⟨t, rfl, hrest⟩)⟩)
  | stopped hheeds => exact traces_trial_iff.2 (.inr ⟨hheeds, rfl, rfl⟩)
  | @interrupted n x hheeds hx hfinal hn =>
    obtain ⟨left, rfl⟩ : ∃ left, further = left + 1 := ⟨m - (n + 1), by omega⟩
    exact traces_trial_iff.2 (.inl ⟨x, _, hx, rfl,
      (traces_followUp_again_iff hfinal hn).2 (.inr ⟨hheeds, rfl, rfl⟩)⟩)

/-- **The exchanges of the loop are those of its courses.** -/
theorem traces_attemptFrom_iff (hfurther : further = m - n) :
    Traces (attemptFrom (.transient m b) heedsToken operation further n) t r ↔
      ∃ trials, Course m b heedsToken operation n trials t r :=
  ⟨exists_course_of_traces hfurther, fun ⟨_, h⟩ => h.traces hfurther⟩

namespace Course

theorem attempted (h : Course m b heedsToken operation n trials t r) :
    ∀ x ∈ trials, x.Of operation := by
  induction h with
  | last hx _ => exact List.forall_mem_singleton.2 hx
  | again hx _ _ _ ih => exact List.forall_mem_cons.2 ⟨hx, ih⟩
  | stopped _ => exact List.forall_mem_nil _
  | interrupted _ hx _ _ => exact List.forall_mem_singleton.2 hx

/-- There are no more trials than the bound allows. -/
theorem length_le (h : Course m b heedsToken operation n trials t r) :
    trials.length + n ≤ max m n + 1 := by
  induction h with
  | last _ _ => simp only [List.length_singleton]; omega
  | again _ _ _ _ ih => simp only [List.length_cons]; omega
  | stopped _ => simp only [List.length_nil]; omega
  | interrupted _ _ _ _ => simp only [List.length_singleton]; omega

/-- A trial that is followed by another one did not end the loop. -/
theorem not_isFinal (h : Course m b heedsToken operation n trials t r) :
    ∀ x ∈ trials.dropLast, ¬IsFinal x.outcome := by
  induction h with
  | last _ _ => exact List.forall_mem_nil _
  | @again n x trials t r hx hfinal _ _ ih =>
    cases trials with
    | nil => exact List.forall_mem_nil _
    | cons y rest =>
      rw [List.dropLast_cons_cons]
      exact List.forall_mem_cons.2 ⟨hfinal, ih⟩
  | stopped _ => exact List.forall_mem_nil _
  | interrupted _ _ _ _ => exact List.forall_mem_nil _

/-- The loop ends as its last trial has, which ends it by itself, unless the token does. -/
theorem result (h : Course m b heedsToken operation n trials t r) :
    r = .error (.ledger .cancelled) ∨ ∃ x, trials.getLast? = some x ∧ r = x.outcome ∧
      (IsFinal x.outcome ∨ m < n + trials.length) := by
  induction h with
  | @last n x _ hlast => exact .inr ⟨x, rfl, rfl, hlast.imp_right Nat.lt_succ_of_le⟩
  | @again n x trials t r hx hfinal _ _ ih =>
    refine ih.imp_right ?_
    rintro ⟨y, hy, rfl, hlast⟩
    refine ⟨y, ?_, rfl, hlast.imp_right fun hm => ?_⟩
    · rw [List.getLast?_cons, hy, Option.getD_some]
    · rw [List.length_cons]
      omega
  | stopped _ => exact .inl rfl
  | interrupted _ _ _ _ => exact .inl rfl

end Course

end EventLedger.RetryCall
