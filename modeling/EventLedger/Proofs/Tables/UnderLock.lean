import EventLedger.Proofs.Tables.Attempt
import EventLedger.Proofs.Tables.Visibility

/-!
# Rows are inserted under the lock

A storage that is kept in tables sends its statements one after another, and between two of them the
other sessions do as they like.  It inserts rows only after the lock was given to its transaction,
and the lock is not lost before the transaction ends.

## Main definitions

* `SharedServer.InsertsNone q` — the request inserts no rows.
* `SharedServer.discipline i` — session `i` inserts rows under the lock.

## Main results

* `SharedServer.Moves.rely` — what one session does leaves the others their lock.
* `SharedServer.keeps_tryCommit` — **an attempt to store a batch inserts rows under the lock.**
* `SharedServer.keeps_retry` — what is retried ends as its attempts end.
-/

namespace EventLedger

namespace SharedServer

open TableStorage

variable {w w' w'' : SharedServer} {i j : Nat}

/-- The request inserts no rows. -/
def InsertsNone (q : RetryRequest statementInterface) : Prop := ∀ ds, q ≠ .inner (.insertEvents ds)

/-- What the other sessions leave to a session. -/
def Rely (i : Nat) (w w' : SharedServer) : Prop :=
  w.Follows w' ∧ (w.MayInsert i → w'.MayInsert i)

/-- What a request may do, if rows are inserted under the lock. -/
theorem Serves.moves {q : RetryRequest statementInterface} {a : q.Answer}
    (hmay : ∀ ds, q = .inner (.insertEvents ds) → w.MayInsert i) (h : w.Serves i q a w') :
    w.Moves i w' := by
  have hrests : w' = w → w.Moves i w' := by
    rintro rfl
    exact .rests ⟨List.Sublist.refl _, rfl, fun _ => ⟨rfl, rfl⟩, rfl, rfl⟩
  cases q with
  | inner q =>
    refine Answers.moves ?_ h
    rintro ds rfl
    exact hmay ds rfl
  | _ => exact hrests h

/-- Session `i` inserts rows under the lock. -/
def discipline (i : Nat) : Discipline (retryInterface statementInterface) SharedServer where
  serves w q a w' := w.Serves i q a w'
  inv := Inv
  rely := Rely i
  asks w q := ∀ ds, q = .inner (.insertEvents ds) → w.MayInsert i
  rely_trans h h' := ⟨h.1.trans h'.1, h'.2 ∘ h.2⟩
  keeps_inv hw hmay h := (Serves.moves hmay h).inv hw

/-- The requests of the retry loop are always permitted. -/
theorem asks_loop {w : SharedServer} {q : RetryRequest statementInterface} (hq : ¬q.IsInner) :
    (discipline i).asks w q := by
  rintro ds rfl
  exact absurd trivial hq

/-! ### What the others leave -/

/-- **What one session does leaves the others their lock.** -/
theorem Moves.rely (h : w.Moves j w') (hw : w.Inv) (hij : i ≠ j) : Rely i w w' := by
  refine ⟨h.follows hw, ?_⟩
  rintro (hcut | hlock)
  · refine .inl ?_
    cases h with
    | rests h => rwa [h.cut]
    | renews h => rwa [(h.others i hij).2]
    | locks h => rwa [h.cut]
    | draws h => rwa [h.cut]
  · refine .inr ?_
    cases h with
    | rests h => rwa [(h.transaction i).2]
    | renews h => rwa [(h.others i hij).1]
    | locks h => rwa [h.others i hij]
    | draws h => rwa [h.others i hij]

/-- A session whose transaction is cut off inserts rows in vain, until it begins another one. -/
theorem rely_cutOff (hw : w.Inv) (i j : Nat) : Rely i w (w.cutOff j) := by
  by_cases hij : i = j
  · subst hij
    exact ⟨(moves_cutOff w i).follows hw, fun _ => .inl (Function.update_self ..)⟩
  · exact (moves_cutOff w j).rely hw hij

/-! ### Calls that insert no rows -/

section Asks

variable {α : Type} {q : Statement}

theorem asks_send (hq : ∀ ds, q ≠ .insertEvents ds) : Call.Asks InsertsNone (send q) := by
  refine ⟨?_, fun _ => trivial⟩
  intro ds heq
  exact hq ds (RetryRequest.inner.inj heq)

theorem asks_run (hq : ∀ ds, q ≠ .insertEvents ds) : Call.Asks InsertsNone (run q) :=
  (asks_send hq).bind fun a => by cases a <;> trivial

theorem asks_giveUp (f : DatabaseFailure) : Call.Asks InsertsNone (giveUp f : TableCall α) :=
  (asks_send (q := .abandon) (by simp)).bind fun _ => trivial

theorem asks_runInside (hq : ∀ ds, q ≠ .insertEvents ds) : Call.Asks InsertsNone (runInside q) := by
  refine (asks_send hq).bind fun a => ?_
  cases a with
  | ok a => trivial
  | error f => exact asks_giveUp f

variable {key : StreamKey} {b : Uuid} {ps : List PendingEvent}

theorem asks_resolveConflict : Call.Asks InsertsNone (resolveConflict key b ps) := by
  refine (Call.Asks.ofExcept _).bind fun low => (Call.Asks.ofExcept _).bind fun high => ?_
  refine (asks_run (by simp)).bind fun rows => (Call.Asks.ofExcept _).bind fun stored => ?_
  split <;> trivial

/-- What follows the insertion of a batch. -/
theorem asks_settle (a : Except DatabaseFailure (List Int)) :
    Call.Asks InsertsNone (settle key b ps a) := by
  cases a with
  | ok globals => exact (asks_runInside (by simp)).bind fun _ => .ofExcept _
  | error f =>
    rw [settle]
    split
    · exact (asks_run (by simp)).bind fun _ => asks_resolveConflict
    · exact asks_giveUp f

end Asks

/-- A call that inserts no rows. -/
theorem keeps_of_asks {α : Type} {c : TableCall α} (hc : Call.Asks InsertsNone c) (i : Nat)
    (w : SharedServer) : Call.Keeps (discipline i) (fun _ _ => True) c w :=
  hc.keeps (fun hq ds heq => absurd heq (hq ds)) w

/-! ### Storing a batch -/

/-- A session whose transaction was given the lock has it. -/
theorem Answers.holdsLock (h : w.Answers i .lock (.ok ()) w') :
    (w'.transaction i).holdsLock = true := by
  cases h with
  | executed h hw =>
    obtain ⟨-, -, hdone⟩ := h
    have hperform : w.server.perform i .lock = (.ok (), _) := hdone.elim id id
    obtain ⟨-, rfl⟩ := Prod.mk.inj hperform
    rw [hw]
    exact congrArg Transaction.holdsLock (Server.transaction_withTransaction ..)
  | lost ha => cases ha
  | failed ha => cases ha
  | drew ha => cases ha

variable {key : StreamKey} {b : Uuid} {ps : List PendingEvent} {drafts : List EventDraft}

/-- Taking the lock. -/
theorem keeps_lock (i : Nat) (w : SharedServer) :
    Call.Keeps (discipline i) (fun w r => r = .ok () → w.MayInsert i) (runInside .lock) w := by
  have hlock : ∀ (w : SharedServer), (discipline i).asks w (.inner .lock) := by
    rintro w ds ⟨⟩
  have habandon : ∀ (w : SharedServer), (discipline i).asks w (.inner .abandon) := by
    rintro w ds ⟨⟩
  intro w₁ _ _
  refine ⟨hlock w₁, fun a w₂ ha => ?_⟩
  cases a with
  | ok u => exact fun _ => .inr (Answers.holdsLock ha)
  | error f => exact fun w₃ _ _ => ⟨habandon w₃, fun _ _ _ hok => by cases hok⟩

/-- **An attempt to store a batch inserts rows under the lock.** -/
theorem keeps_tryCommit (hw : w.Inv) :
    Call.Keeps (discipline i) (fun _ _ => True) (tryCommit key b ps drafts) w := by
  rw [tryCommit_eq]
  refine (keeps_of_asks (asks_run (by simp)) i w).bind hw (fun w₁ _ hw₁ _ => ?_) (by simp)
  refine (keeps_lock i w₁).bind hw₁ (fun w₂ _ hw₂ hlock => ?_) (by simp)
  split
  · exact keeps_of_asks (asks_giveUp _) i w₂
  · -- nobody takes the lock away before the insertion
    intro w₃ hrely hw₃
    refine ⟨fun _ _ => hrely.2 (hlock rfl), fun a w₄ _ => ?_⟩
    exact keeps_of_asks (asks_settle a) i w₄

/-- What is retried ends as its attempts end. -/
theorem keeps_retry {α : Type} {operation : TableCall α}
    {post : SharedServer → Except TableError α → Prop} (strategy : RetryStrategy)
    (heedsToken : Bool) (herror : ∀ w e, post w (.error e))
    (hattempt : ∀ w : SharedServer, w.Inv → Call.Keeps (discipline i) post operation w)
    (hw : w.Inv) :
    Call.Keeps (discipline i) post (retryTransient strategy heedsToken operation) w :=
  RetryCall.keeps_attemptFrom asks_loop herror (hattempt _) _ 1 hw

end SharedServer

end EventLedger
