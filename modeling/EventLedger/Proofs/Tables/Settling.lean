import EventLedger.Proofs.MemoryStorage
import EventLedger.Proofs.Tables.Trials
import EventLedger.Tables.Storage
import Mathlib.Data.List.Infix
import Mathlib.Order.Bounds.Basic

/-!
# What becomes of a retried operation

If the token does not fire, or there is none, the outcomes of its runs alone decide how often an
operation is run: up to the first outcome that is final, or to the bound.  The token fires at one
moment.  A run that has begun by then goes on to its end, and none begins afterwards: what is
exchanged late, after that moment, tells everyone who looks at the token that it has fired.

## Main definitions

* `RetryCall.Untouched`, `RetryCall.Late` — exchanges that do not tell of the token, and those that
  may follow the moment at which it fires.
* `RetryCall.waits` — the delays that were waited.
* `RetryCall.StopsAt` — how many trials outcomes ask for.
* `RetryCall.Settles` — what the loop makes of its trials and of the token.

## Main results

* `RetryCall.Course.undisturbed` — a course that the token leaves alone.
* `RetryCall.Course.prefix_of_late` — no trial begins after the token has fired.
* `RetryCall.settles_of_asks` — **every retried operation settles.**
-/

namespace EventLedger.RetryCall

open Call (Asks Traces)

variable {I : Interface} {α : Type} {m n : Nat} {b : Backoff} {heedsToken : Bool}
  {operation : RetryCall I α} {t : List (Exchange (retryInterface I))} {r : Except TableError α}
  {trials : List (Trial I α)}

/-! ### The token -/

/-- What a list begins with up to an element that its second half lacks is in its first half. -/
theorem concat_prefix_of_not_mem {β : Type} {l first second : List β} {c : β}
    (h : l ++ [c] <+: first ++ second) (hc : c ∉ second) : l ++ [c] <+: first := by
  rcases List.prefix_or_prefix_of_prefix h (List.prefix_append first second) with hle | hge
  · exact hle
  · rcases List.prefix_concat_iff.1 hge with rfl | ⟨s, rfl⟩
    · exact List.prefix_rfl
    · rw [List.append_assoc, List.prefix_append_right_inj] at h
      exact absurd (h.subset (List.mem_append_right s (List.mem_singleton_self c))) hc

/-- The exchange does not tell that the token has fired. -/
def Untouched : Exchange (retryInterface I) → Prop
  | ⟨.isCancelled, cancelled⟩ => cancelled = false
  | ⟨.pause _, cancelled⟩ => cancelled = false
  | _ => True

/-- The exchange may follow the moment at which the token fires: whoever looks at the token sees
it. -/
def Late : Exchange (retryInterface I) → Prop
  | ⟨.isCancelled, cancelled⟩ => cancelled = true
  | _ => True

/-- The delays that were waited, in order. -/
def waits (t : List (Exchange (retryInterface I))) : List Duration :=
  t.filterMap fun x =>
    match x.request with
    | .pause d => some d
    | .sleep d => some d
    | _ => none

theorem waits_append (t t' : List (Exchange (retryInterface I))) :
    waits (t ++ t') = waits t ++ waits t' :=
  List.filterMap_append

/-- A trial does not wait. -/
theorem waits_begun (hasks : Asks RetryRequest.IsInner operation) {x : Trial I α}
    (hx : x.Of operation) : waits (begun heedsToken x) = [] := by
  have hpassed : waits (passed heedsToken : List (Exchange (retryInterface I))) = [] := by
    cases heedsToken <;> rfl
  have hinner : waits x.exchanges = [] := by
    refine List.filterMap_eq_nil_iff.2 fun y hy => ?_
    have hrequest := hasks.of_traces hx y hy
    obtain ⟨q, a⟩ := y
    cases q with
    | inner q => rfl
    | _ => exact hrequest.elim
  rw [begun, waits_append, hpassed, hinner, List.append_nil]

theorem waits_waited (d : Duration) (t : List (Exchange (retryInterface I))) :
    waits (waited heedsToken d :: t) = d :: waits t := by
  cases heedsToken <;> rfl

theorem waits_closing (n : Nat) (o : Except TableError α) :
    waits (closing n o : List (Exchange (retryInterface I))) = [] := by
  cases o <;> rfl

/-- A trial knows nothing of the token. -/
theorem untouched_begun (hasks : Asks RetryRequest.IsInner operation) {x : Trial I α}
    (hx : x.Of operation) : ∀ y ∈ begun heedsToken x, Untouched y := by
  refine List.forall_mem_append.2 ⟨?_, fun y hy => ?_⟩
  · cases heedsToken with
    | false => exact List.forall_mem_nil _
    | true => exact List.forall_mem_singleton.2 rfl
  · have hrequest := hasks.of_traces hx y hy
    obtain ⟨q, a⟩ := y
    cases q with
    | inner q => trivial
    | _ => exact hrequest.elim

theorem untouched_waited (d : Duration) :
    Untouched (waited heedsToken d : Exchange (retryInterface I)) := by
  cases heedsToken with
  | false => trivial
  | true => rfl

theorem untouched_closing (n : Nat) (o : Except TableError α) :
    ∀ y ∈ (closing n o : List (Exchange (retryInterface I))), Untouched y := by
  cases o with
  | ok a => exact List.forall_mem_nil _
  | error e => exact List.forall_mem_singleton.2 trivial

/-- Trials from number `n` on, each of which is followed by another one after a delay. -/
def lead (b : Backoff) (heedsToken : Bool) : Nat → List (Trial I α) →
    List (Exchange (retryInterface I))
  | _, [] => []
  | n, x :: rest =>
    begun heedsToken x ++ notice n (some (b.delay n)) :: waited heedsToken (b.delay n) ::
      lead b heedsToken (n + 1) rest

/-- The number of trials from number `n` on if they end with these outcomes: up to the first final
one or to the bound, whichever is first. -/
def StopsAt (m n : Nat) (outcomes : Nat → Except TableError α) (k : Nat) : Prop :=
  IsLeast {i | n ≤ i ∧ (i = max m n ∨ IsFinal (outcomes i))} k

namespace Course

theorem stopsAt_self {outcomes : Nat → Except TableError α} (h : IsFinal (outcomes n) ∨ m ≤ n) :
    StopsAt m n outcomes n :=
  ⟨⟨le_rfl, h.symm.imp_left fun hm => (max_eq_right hm).symm⟩, fun _ hi => hi.1⟩

theorem stopsAt_succ {outcomes : Nat → Except TableError α} {k : Nat}
    (hfinal : ¬IsFinal (outcomes n)) (hn : n < m) (h : StopsAt m (n + 1) outcomes k) :
    StopsAt m n outcomes k := by
  have hmax : max m (n + 1) = max m n := by omega
  unfold StopsAt at h ⊢
  rw [hmax] at h
  refine ⟨⟨by have := h.1.1; omega, h.1.2⟩, ?_⟩
  rintro i ⟨hi, hstop⟩
  refine h.2 ⟨?_, hstop⟩
  rcases hstop with hbound | hstop
  · omega
  · have hne : i ≠ n := by
      rintro rfl
      exact hfinal hstop
    omega

/-- **A course that the token leaves alone** stops at the first final outcome or at the bound, its
result is the outcome there, and the delays between the trials are those of the schedule. -/
theorem undisturbed (hasks : Asks RetryRequest.IsInner operation)
    (h : Course m b heedsToken operation n trials t r)
    (ht : heedsToken = true → ∀ x ∈ t, Untouched x) :
    ∃ k, trials.length = k + 1 ∧ waits t = (List.range' n k).map b.delay ∧
      ∀ outcomes : Nat → Except TableError α,
        (∀ i x, trials[i]? = some x → x.outcome = outcomes (n + i)) →
        StopsAt m n outcomes (n + k) ∧ r = outcomes (n + k) := by
  induction h with
  | @last n x hx hlast =>
    refine ⟨0, rfl, ?_, fun outcomes hout => ?_⟩
    · rw [waits_append, waits_begun hasks hx, waits_closing]
      rfl
    · obtain hx : x.outcome = outcomes n := hout 0 x rfl
      rw [hx] at hlast ⊢
      exact ⟨stopsAt_self hlast, rfl⟩
  | @again n x trials t r hx hfinal hn _ ih =>
    obtain ⟨k, hlength, hwaits, hrest⟩ := ih fun hheeds y hy => ht hheeds y (by simp [hy])
    refine ⟨k + 1, by rw [List.length_cons, hlength], ?_, fun outcomes hout => ?_⟩
    · rw [waits_append, waits_begun hasks hx, List.nil_append]
      change waits (waited heedsToken (b.delay n) :: t) = _
      rw [waits_waited, hwaits, List.range'_succ, List.map_cons]
    · obtain ⟨hstops, hr⟩ := hrest outcomes fun i y hy => by
        rw [hout (i + 1) y hy, Nat.add_right_comm, Nat.add_assoc]
      obtain hx : x.outcome = outcomes n := hout 0 x rfl
      rw [hx] at hfinal
      rw [show n + (k + 1) = n + 1 + k by omega]
      exact ⟨stopsAt_succ hfinal hn hstops, hr⟩
  | stopped hheeds => cases ht hheeds _ List.mem_cons_self
  | @interrupted n x hheeds _ _ _ =>
    have hpause := ht hheeds ⟨.pause (b.delay n), true⟩
      (List.mem_append_right _ (List.mem_cons_of_mem _ List.mem_cons_self))
    cases hpause

/-- Whatever the outcomes are, there is a course with them that the token leaves alone. -/
theorem exists_of_script (hasks : Asks RetryRequest.IsInner operation) (script : Nat → Trial I α)
    (hscript : ∀ n, (script n).Of operation) (n : Nat) :
    ∃ k t, Course m b heedsToken operation n ((List.range' n (k + 1)).map script) t
        (script (n + k)).outcome ∧ ∀ x ∈ t, Untouched x := by
  induction hleft : m - n generalizing n with
  | zero =>
    refine ⟨0, _, .last (hscript n) (.inr (by omega)), ?_⟩
    exact List.forall_mem_append.2 ⟨untouched_begun hasks (hscript n), untouched_closing n _⟩
  | succ left ih =>
    by_cases hfinal : IsFinal (script n).outcome
    · refine ⟨0, _, .last (hscript n) (.inl hfinal), ?_⟩
      exact List.forall_mem_append.2 ⟨untouched_begun hasks (hscript n), untouched_closing n _⟩
    · obtain ⟨k, t, hcourse, ht⟩ := ih (n + 1) (by omega)
      rw [show n + 1 + k = n + (k + 1) by omega] at hcourse
      refine ⟨k + 1, _, .again (hscript n) hfinal (by omega) hcourse, ?_⟩
      refine List.forall_mem_append.2 ⟨untouched_begun hasks (hscript n), ?_⟩
      exact List.forall_mem_cons.2 ⟨trivial, List.forall_mem_cons.2 ⟨untouched_waited _, ht⟩⟩

/-- A trial begins after those before it, once the token was looked at. -/
theorem lead_prefix {before after : List (Trial I α)} {x : Trial I α}
    (h : Course m b heedsToken operation n trials t r) (htrials : trials = before ++ x :: after) :
    lead b heedsToken n before ++ begun heedsToken x <+: t := by
  induction h generalizing before with
  | @last n y hy hlast =>
    obtain ⟨rfl, rfl, rfl⟩ : before = [] ∧ y = x ∧ after = [] := by
      cases before <;> simp_all
    exact List.prefix_append ..
  | @again n y trials t r hy hfinal hn _ ih =>
    cases before with
    | nil =>
      obtain rfl : y = x := (List.cons.inj htrials).1
      exact List.prefix_append ..
    | cons z rest =>
      obtain ⟨rfl, hothers⟩ : y = z ∧ trials = rest ++ x :: after := List.cons.inj htrials
      rw [lead, List.append_assoc, List.prefix_append_right_inj]
      exact (List.prefix_cons_inj _).2 ((List.prefix_cons_inj _).2 (ih hothers))
  | stopped _ => cases before <;> cases htrials
  | @interrupted n y _ hy hfinal hn =>
    obtain ⟨rfl, rfl, rfl⟩ : before = [] ∧ y = x ∧ after = [] := by
      cases before <;> simp_all
    exact List.prefix_append ..

/-- **No trial begins after the token has fired**: every look at the token that let a trial begin
was before that moment. -/
theorem prefix_of_late {untouched late : List (Exchange (retryInterface I))}
    {before after : List (Trial I α)} {x : Trial I α}
    (h : Course m b true operation n trials (untouched ++ late) r) (hlate : ∀ y ∈ late, Late y)
    (htrials : trials = before ++ x :: after) :
    lead b true n before ++ passed true <+: untouched := by
  have hbegun := h.lead_prefix htrials
  rw [begun, ← List.append_assoc] at hbegun
  refine concat_prefix_of_not_mem ((List.prefix_append ..).trans hbegun) fun hmem => ?_
  cases hlate _ hmem

end Course

/-! ### What becomes of an operation -/

/-- What the loop of at most `m` trials makes of its trials and of the token. -/
structure Settles (m : Nat) (b : Backoff) (heedsToken : Bool) (operation : RetryCall I α) :
    Prop where
  /-- The loop exchanges what its courses do, and ends as they do. -/
  courses : ∀ t r, Traces (retryTransient (.transient m b) heedsToken operation) t r ↔
    ∃ trials, Course m b heedsToken operation 1 trials t r
  /-- Each trial is a run of the operation, the bound is kept, and a trial is followed by another
  one only if the database failed in a way that may pass. -/
  retried : ∀ {trials t r}, Course m b heedsToken operation 1 trials t r →
    (∀ x ∈ trials, x.Of operation) ∧ trials.length ≤ max m 1 ∧
      ∀ x ∈ trials.dropLast, ∃ f, x.outcome = .error (.database f) ∧ f.isTransient = true
  /-- Whatever the outcomes are, the loop may make as many trials as they ask for. -/
  runs : ∀ script : Nat → Trial I α, (∀ n, (script n).Of operation) →
    ∃ k t, StopsAt m 1 (fun n => (script n).outcome) k ∧
      Course m b heedsToken operation 1 ((List.range' 1 k).map script) t (script k).outcome ∧
      ∀ x ∈ t, Untouched x
  /-- Without a token, or with one that does not fire, it makes so many whatever happens: the result
  is the outcome of the last one, and the delays between them are those of the schedule. -/
  undisturbed : ∀ {trials t r}, Course m b heedsToken operation 1 trials t r →
    (heedsToken = true → ∀ x ∈ t, Untouched x) →
    waits t = (List.range' 1 (trials.length - 1)).map b.delay ∧
      ∀ outcomes : Nat → Except TableError α,
        (∀ i x, trials[i]? = some x → x.outcome = outcomes (i + 1)) →
        StopsAt m 1 outcomes trials.length ∧ r = outcomes trials.length
  /-- Once the token has fired no trial begins, and the result is that the caller cancelled, unless
  it is the outcome of the last trial, which ends the loop by itself. -/
  cancelled : heedsToken = true → ∀ {trials untouched late r},
    Course m b heedsToken operation 1 trials (untouched ++ late) r → (∀ x ∈ late, Late x) →
    (∀ before x after, trials = before ++ x :: after →
      lead b heedsToken 1 before ++ passed heedsToken <+: untouched) ∧
      (r = .error (.ledger .cancelled) ∨ ∃ x, trials.getLast? = some x ∧ r = x.outcome ∧
        (IsFinal x.outcome ∨ m ≤ trials.length))

theorem exists_database_of_not_isFinal {o : Except TableError α} (h : ¬IsFinal o) :
    ∃ f, o = .error (.database f) ∧ f.isTransient = true := by
  cases o with
  | ok a => exact absurd trivial h
  | error e =>
    cases e with
    | ledger e => exact absurd trivial h
    | database f => exact ⟨f, rfl, by simpa [IsFinal] using h⟩

/-- **Every retried operation settles**, whatever its runs do, if it leaves the requests of the loop
to the loop. -/
theorem settles_of_asks (m : Nat) (b : Backoff) (heedsToken : Bool)
    (hasks : Asks RetryRequest.IsInner operation) : Settles m b heedsToken operation where
  courses _ _ := traces_attemptFrom_iff rfl
  retried h := by
    refine ⟨h.attempted, ?_, fun x hx => exists_database_of_not_isFinal (h.not_isFinal x hx)⟩
    have hle := h.length_le
    omega
  runs script hscript := by
    obtain ⟨k, t, h, ht⟩ : ∃ k t, Course m b heedsToken operation 1
        ((List.range' 1 (k + 1)).map script) t (script (1 + k)).outcome ∧ ∀ x ∈ t, Untouched x :=
      Course.exists_of_script hasks script hscript 1
    obtain ⟨k', hlength, -, hstops⟩ := h.undisturbed hasks fun _ => ht
    obtain rfl : k = k' := by simpa using hlength
    rw [Nat.add_comm 1 k] at h hstops
    refine ⟨k + 1, t, (hstops _ fun i x hx => ?_).1, h, ht⟩
    rw [List.getElem?_map] at hx
    obtain ⟨n, hn, rfl⟩ := Option.map_eq_some_iff.1 hx
    obtain rfl : n = 1 + i := by grind
    rfl
  undisturbed h ht := by
    obtain ⟨k, hlength, hwaits, hstops⟩ := h.undisturbed hasks ht
    rw [hlength, Nat.add_sub_cancel, Nat.add_comm k 1]
    refine ⟨hwaits, fun outcomes hout => hstops outcomes fun i x hx => ?_⟩
    rw [hout i x hx, Nat.add_comm]
  cancelled hheeds := by
    rintro trials untouched late r h hlate
    subst hheeds
    refine ⟨fun before x after htrials => h.prefix_of_late hlate htrials, ?_⟩
    refine h.result.imp_right ?_
    rintro ⟨x, hx, hr, hlast⟩
    exact ⟨x, hx, hr, hlast.imp_right fun hm => by omega⟩

/-! ### A deletion that is tried twice -/

/-- A deletion of a stream. -/
def deletion : TableCall Nat := TableStorage.run (.deleteEvents MemoryStorage.sampleKey)

/-- The deletion, as the server answers it. -/
def deletionAnswered (a : Except DatabaseFailure Nat) : Trial statementInterface Nat :=
  ⟨[⟨.inner (.deleteEvents MemoryStorage.sampleKey), a⟩], a.mapError .database⟩

theorem of_deletionAnswered (a : Except DatabaseFailure Nat) :
    (deletionAnswered a).Of deletion := by
  refine Call.traces_waiting_iff.2 ⟨a, [], rfl, ?_⟩
  cases a with
  | ok n => exact .done n
  | error f => exact .failed _

/-- A deletion that runs into an exhausted pool once: it is tried again after the first delay, unless
the token fires during that delay. -/
theorem settles_deletion : Asks RetryRequest.IsInner deletion ∧
    (∃ t, Traces (retryTransient (.transient 3 .standard) true deletion) t (.ok 5) ∧
      waits t = [.ofMillis 10]) ∧
    Traces (retryTransient (.transient 3 .standard) true deletion)
      [⟨.isCancelled, false⟩,
        ⟨.inner (.deleteEvents MemoryStorage.sampleKey), .error .poolTimedOut⟩,
        notice 1 (some (.ofMillis 10)), ⟨.pause (.ofMillis 10), true⟩]
      (.error (.ledger .cancelled)) := by
  have hasks : Asks RetryRequest.IsInner deletion := ⟨trivial, fun a => by cases a <;> trivial⟩
  have hsettles := settles_of_asks 3 .standard true hasks
  let script : Nat → Trial statementInterface Nat := fun n =>
    deletionAnswered (if n = 1 then .error .poolTimedOut else .ok 5)
  obtain ⟨k, t, hstops, hcourse, ht⟩ := hsettles.runs script fun n => of_deletionAnswered _
  have htwo : StopsAt 3 1 (fun n => (script n).outcome) 2 := by
    refine ⟨⟨by decide, .inr trivial⟩, ?_⟩
    rintro i ⟨hi, hstop⟩
    by_contra hlt
    obtain rfl : i = 1 := by omega
    rcases hstop with hbound | hfinal
    · cases hbound
    · cases hfinal
  obtain rfl : k = 2 := hstops.unique htwo
  have hinterrupted : Course 3 .standard true deletion 1 [deletionAnswered (.error .poolTimedOut)]
      _ (.error (.ledger .cancelled)) :=
    .interrupted rfl (of_deletionAnswered _) (by decide) (by decide)
  refine ⟨hasks, ⟨t, (hsettles.courses _ _).2 ⟨_, hcourse⟩, ?_⟩, ?_⟩
  · exact (hsettles.undisturbed hcourse fun _ => ht).1
  · exact (hsettles.courses _ _).2 ⟨_, hinterrupted⟩

end EventLedger.RetryCall
