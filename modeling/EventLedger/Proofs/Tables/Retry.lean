import EventLedger.Proofs.Call.Discipline
import EventLedger.Tables.Retry

/-!
# What retrying keeps

The loop around an operation ends as one of its attempts has ended.  Whatever every attempt keeps
that may be followed by another one, the loop keeps; an attempt is followed by another one only if
the database failed in a way that may pass.

## Main definitions

* `RetryRequest.IsInner`, `RetryRequest.Uncancelled` — the operation's own requests, and callers that
  do not cancel.

## Main results

* `RetryCall.of_attemptFrom` — **what holds at the end of an attempt holds at the end of the loop.**
* `RetryCall.keeps_attemptFrom` — the same among other clients, for what is said of successes only.
-/

namespace EventLedger

open Call (RunsTo)

variable {I : Interface} {α W : Type}

namespace RetryRequest

/-- A request of the operation that is retried. -/
def IsInner : RetryRequest I → Prop
  | .inner _ => True
  | _ => False

/-- The caller does not cancel. -/
structure Uncancelled (serves : W → (q : RetryRequest I) → q.Answer → W → Prop) : Prop where
  isCancelled : ∀ {w w' : W} {a : Bool}, serves w .isCancelled a w' → a = false
  pause : ∀ {w w' : W} {d : Duration} {a : Bool}, serves w (.pause d) a w' → a = false

end RetryRequest

/-- The strategy has the operation tried again only if the database failed in a way that may pass. -/
theorem RetryStrategy.isTransient_of_decide {s : RetryStrategy} {e : TableError} {n : Nat}
    {d : Duration} (h : s.decide e n = some d) : ∃ f, e = .database f ∧ f.isTransient = true := by
  unfold decide at h
  split at h
  · next maxAttempts backoff f =>
    split at h
    · next hagain => exact ⟨f, rfl, hagain.2⟩
    · cases h
  · cases h

namespace RetryCall

variable {serves : W → (q : RetryRequest I) → q.Answer → W → Prop} {s : RetryStrategy}
  {heedsToken : Bool} {operation : RetryCall I α} {w w' : W} {P : W → Prop}
  {Q : Except TableError α → W → Prop}

/-- An attempt and what follows it. -/
theorem attemptFrom_eq (further n : Nat) : attemptFrom s heedsToken operation further n =
    (checkLive heedsToken).bind fun _ => operation.outcome.bind fun
      | .ok a => .done a
      | .error e => (decided n (s.decide e n)).bind fun _ =>
        match s.decide e n, further with
        | some d, left + 1 => (delay heedsToken d).bind fun _ =>
            attemptFrom s heedsToken operation left (n + 1)
        | _, _ => .failed e := by
  -- the recursion is hidden behind the choice of the strategy
  conv =>
    lhs
    delta attemptFrom
  cases further
  all_goals
    refine congrArg (Call.bind (checkLive heedsToken)) (funext fun _ => ?_)
    refine congrArg (Call.bind operation.outcome) (funext fun r => ?_)
    rcases r with e | a
    · refine congrArg (Call.bind (decided n (s.decide e n))) (funext fun _ => ?_)
      rcases s.decide e n with _ | d
      · rfl
      · first
        | rfl
        | refine congrArg (Call.bind (delay heedsToken d)) (funext fun _ => ?_)
          delta attemptFrom
          rfl
    · rfl

/-- A caller that does not cancel passes the check before an attempt. -/
theorem of_checkLive {r : Except TableError Unit}
    (hcancel : heedsToken = true → RetryRequest.Uncancelled serves)
    (hP : ∀ {w q a w'}, ¬RetryRequest.IsInner q → serves w q a w' → P w → P w')
    (h : RunsTo serves (checkLive heedsToken) w r w') (hw : P w) : r = .ok () ∧ P w' := by
  cases heedsToken with
  | false =>
    cases h
    exact ⟨rfl, hw⟩
  | true =>
    cases h with
    | waiting ha hrest =>
      obtain rfl := (hcancel rfl).isCancelled ha
      cases hrest
      exact ⟨rfl, hP id ha hw⟩

/-- A caller that does not cancel waits to the end. -/
theorem of_delay {d : Duration} {r : Except TableError Unit}
    (hcancel : heedsToken = true → RetryRequest.Uncancelled serves)
    (hP : ∀ {w q a w'}, ¬RetryRequest.IsInner q → serves w q a w' → P w → P w')
    (h : RunsTo serves (delay heedsToken d) w r w') (hw : P w) : r = .ok () ∧ P w' := by
  cases heedsToken with
  | false =>
    cases h with
    | waiting ha hrest =>
      cases hrest
      exact ⟨rfl, hP id ha hw⟩
  | true =>
    cases h with
    | waiting ha hrest =>
      obtain rfl := (hcancel rfl).pause ha
      cases hrest
      exact ⟨rfl, hP id ha hw⟩

/-- The loop ends with an attempt, or goes on after it. -/
theorem cases_of_attemptFrom (hcancel : heedsToken = true → RetryRequest.Uncancelled serves)
    (hP : ∀ {w q a w'}, ¬RetryRequest.IsInner q → serves w q a w' → P w → P w')
    (hQ : ∀ {w w' n d e}, serves w (.decided n d) () w' → Q (.error e) w → Q (.error e) w')
    (hattempt : ∀ {w r w'}, P w → RunsTo serves operation w r w' → Q r w' ∧
      ∀ f, r = .error (.database f) → f.isTransient = true → P w')
    {further n : Nat} {r : Except TableError α} (hw : P w)
    (h : RunsTo serves (attemptFrom s heedsToken operation further n) w r w') :
    Q r w' ∨ ∃ left w₁, further = left + 1 ∧ P w₁ ∧
      RunsTo serves (attemptFrom s heedsToken operation left (n + 1)) w₁ r w' := by
  rw [attemptFrom_eq] at h
  -- the check, the attempt, the notice of the decision, and the pause if there is another one
  rcases h.of_bind with ⟨u, w₁, hcheck, hrest⟩ | ⟨e, hcheck, -⟩
  · obtain ⟨-, hw₁⟩ := of_checkLive hcancel hP hcheck hw
    obtain ⟨r₁, w₂, hattempted, hrest⟩ := hrest.of_outcome_bind
    obtain ⟨hq, hagain⟩ := hattempt hw₁ hattempted
    cases r₁ with
    | ok a =>
      cases hrest
      exact .inl hq
    | error e =>
      rcases hrest.of_bind with ⟨u, w₃, hnotice, hrest⟩ | ⟨e', hnotice, -⟩
      · obtain ⟨a, -, hgiven⟩ := hnotice.of_ask
        have hq := hQ hgiven hq
        cases hd : s.decide e n with
        | none =>
          rw [hd] at hrest
          cases hrest
          exact .inl hq
        | some d =>
          obtain ⟨f, rfl, htransient⟩ := RetryStrategy.isTransient_of_decide hd
          have hw₃ := hP id hgiven (hagain f rfl htransient)
          rw [hd] at hrest
          cases further with
          | zero =>
            cases hrest
            exact .inl hq
          | succ left =>
            rcases hrest.of_bind with ⟨u, w₄, hdelay, hrest⟩ | ⟨e', hdelay, -⟩
            · obtain ⟨-, hw₄⟩ := of_delay hcancel hP hdelay hw₃
              exact .inr ⟨left, w₄, rfl, hw₄, hrest⟩
            · obtain ⟨hok, -⟩ := of_delay hcancel hP hdelay hw₃
              cases hok
      · obtain ⟨_, hok, -⟩ := hnotice.of_ask
        cases hok
  · obtain ⟨hok, -⟩ := of_checkLive hcancel hP hcheck hw
    cases hok

/-- **What holds at the end of an attempt holds at the end of the loop.**  An attempt that the
database failed in a way that may pass has to keep `P`, so that another one can follow. -/
theorem of_attemptFrom (hcancel : heedsToken = true → RetryRequest.Uncancelled serves)
    (hP : ∀ {w q a w'}, ¬RetryRequest.IsInner q → serves w q a w' → P w → P w')
    (hQ : ∀ {w w' n d e}, serves w (.decided n d) () w' → Q (.error e) w → Q (.error e) w')
    (hattempt : ∀ {w r w'}, P w → RunsTo serves operation w r w' → Q r w' ∧
      ∀ f, r = .error (.database f) → f.isTransient = true → P w')
    (further n : Nat) {r : Except TableError α} (hw : P w)
    (h : RunsTo serves (attemptFrom s heedsToken operation further n) w r w') : Q r w' := by
  induction further generalizing n w with
  | zero =>
    rcases cases_of_attemptFrom hcancel hP hQ hattempt hw h with hq | ⟨left, -, hleft, -⟩
    · exact hq
    · cases hleft
  | succ further ih =>
    rcases cases_of_attemptFrom hcancel hP hQ hattempt hw h with hq | ⟨left, w₁, hleft, hw₁, h₁⟩
    · exact hq
    · obtain rfl := Nat.succ.inj hleft
      exact ih (n + 1) hw₁ h₁

/-- An attempt that succeeds ends the loop. -/
theorem runsTo_of_ok {further n : Nat} {a : α} (h : RunsTo serves operation w (.ok a) w') :
    RunsTo serves (attemptFrom s false operation further n) w (.ok a) w' := by
  rw [attemptFrom_eq]
  exact RunsTo.bind (.done () w) (h.outcome.bind (.done a w'))

/-- An attempt that fails in a way that may pass is followed by another one. -/
theorem runsTo_of_error {further n : Nat} {e : TableError} {d : Duration} {w₁ w₂ w₃ : W}
    {r : Except TableError α} (h : RunsTo serves operation w (.error e) w₁)
    (hd : s.decide e n = some d) (hnotice : serves w₁ (.decided n (some d)) () w₂)
    (hsleep : serves w₂ (.sleep d) () w₃)
    (hrest : RunsTo serves (attemptFrom s false operation further (n + 1)) w₃ r w') :
    RunsTo serves (attemptFrom s false operation (further + 1) n) w r w' := by
  rw [attemptFrom_eq]
  refine RunsTo.bind (.done () w) (h.outcome.bind ?_)
  change RunsTo serves ((decided n (s.decide e n)).bind fun _ => _) w₁ r w'
  rw [hd]
  exact .waiting hnotice (.waiting hsleep hrest)

/-! ### Among other clients -/

variable {D : Discipline (retryInterface I) W} {post : W → Except TableError α → Prop}
  (hasks : ∀ {w : W} {q : RetryRequest I}, ¬q.IsInner → D.asks w q)

include hasks

theorem keeps_checkLive (heedsToken : Bool) (w : W) :
    Call.Keeps D (fun _ _ => True) (checkLive heedsToken) w := by
  cases heedsToken with
  | false => trivial
  | true => exact fun w₁ _ _ => ⟨hasks id, fun a w₂ _ => by cases a <;> trivial⟩

theorem keeps_delay (heedsToken : Bool) (d : Duration) (w : W) :
    Call.Keeps D (fun _ _ => True) (delay heedsToken d) w := by
  cases heedsToken with
  | false => exact fun w₁ _ _ => ⟨hasks id, fun _ w₂ _ => trivial⟩
  | true => exact fun w₁ _ _ => ⟨hasks id, fun a w₂ _ => by cases a <;> trivial⟩

theorem keeps_decided (n : Nat) (d : Option Duration) (w : W) :
    Call.Keeps D (fun _ _ => True) (decided n d) w :=
  fun _ _ _ => ⟨hasks id, fun _ _ _ => trivial⟩

/-- One attempt, and the loop after it. -/
theorem keeps_attempt (herror : ∀ w e, post w (.error e))
    (hattempt : ∀ {w}, D.inv w → Call.Keeps D post operation w) {further n : Nat} (hw : D.inv w)
    (hrest : ∀ left, further = left + 1 → ∀ w', D.inv w' →
      Call.Keeps D post (attemptFrom s heedsToken operation left (n + 1)) w') :
    Call.Keeps D post (attemptFrom s heedsToken operation further n) w := by
  have hfails : ∀ (w : W) (e : TableError), D.inv w → True → post w (.error e) :=
    fun w e _ _ => herror w e
  rw [attemptFrom_eq]
  refine (keeps_checkLive hasks heedsToken w).bind hw (fun w₁ _ hw₁ _ => ?_) hfails
  refine (hattempt hw₁).outcome_bind hw₁ fun w₂ r hw₂ hr => ?_
  cases r with
  | ok a => exact hr
  | error e =>
    refine (keeps_decided hasks n _ w₂).bind hw₂ (fun w₃ _ hw₃ _ => ?_) hfails
    cases s.decide e n with
    | none => exact herror w₃ e
    | some d =>
      cases further with
      | zero => exact herror w₃ e
      | succ left =>
        exact (keeps_delay hasks heedsToken d w₃).bind hw₃
          (fun w₄ _ hw₄ _ => hrest left rfl w₄ hw₄) hfails

/-- **The loop ends as its attempts end**, whatever the others do meanwhile and whether the caller
cancels or not, if nothing is said of failures. -/
theorem keeps_attemptFrom (herror : ∀ w e, post w (.error e))
    (hattempt : ∀ {w}, D.inv w → Call.Keeps D post operation w) (further n : Nat) (hw : D.inv w) :
    Call.Keeps D post (attemptFrom s heedsToken operation further n) w := by
  induction further generalizing n w with
  | zero => exact keeps_attempt hasks herror hattempt hw fun left hleft => by cases hleft
  | succ further ih =>
    refine keeps_attempt hasks herror hattempt hw ?_
    rintro left hleft w' hw'
    obtain rfl := Nat.succ.inj hleft
    exact ih (n + 1) hw'

end RetryCall

end EventLedger
