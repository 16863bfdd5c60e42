import EventLedger.Proofs.Orders.Rules
import Mathlib.Data.List.Induction

/-!
# Units of work on an order

During a unit of work the calls on an order change its root where it stands: the state by the
handler of an event, then the list of the events that are to be committed.  A call that fails after
it changed something would leave that change behind, and what is committed would no longer be what
the next call and the snapshot see.  No call does: it changes both or nothing.

## Main definitions

* `Root.Change` — a call that changes a root in place, and `Root.changeByEmit`.
* `OrderCall`, `OrderCall.change` — the calls on an order, and what they do in place.
* `OrderCall.reached` — the root after some calls, whether or not they failed.

## Main results

* `OrderCall.run_change` — in place, a call does what it does to a root that it is given.
* `OrderCall.Answers` — what one call can do to a root.
* `OrderCall.reached_concat` — each call is made on the root that the calls before it have left.
* `OrderRoot.keepsAccount_of_calls` — **after every sequence of calls the state is that of the
  uncommitted events**, and every further call records one event or changes nothing.
-/

namespace EventLedger

namespace Root

variable {σ ε : Type}

/-- A call that changes a root in place.  What it changed before it failed stays changed. -/
abbrev Change (σ ε : Type) := ExceptT Error (StateM (Root σ ε))

/-- Changes the state by the handler of an event. -/
def changeState (a : Aggregate σ ε) (e : ε) : Change σ ε Unit :=
  match a.handler? (a.typeOf e) with
  | some handler => modify fun r => { r with state := handler r.state e }
  | none => throw (.missingHandler a.name (a.typeOf e))

/-- Changes the state, and records the event. -/
def changeByEmit (a : Aggregate σ ε) (e : ε) : Change σ ε Unit := do
  changeState a e
  modify fun r => { r with uncommitted := r.uncommitted ++ [e] }

/-- The result of a call and the root that it leaves, if a failure leaves the root as it was. -/
def outcome (r : Root σ ε) : Except Error (Root σ ε) → Except Error Unit × Root σ ε
  | .ok r' => (.ok (), r')
  | .error err => (.error err, r)

theorem run_get_bind (f : Root σ ε → Change σ ε Unit) (r : Root σ ε) :
    (get >>= f).run r = (f r).run r := rfl

/-- **Emitting in place** leaves the root as it was if the event has no handler. -/
theorem run_changeByEmit (a : Aggregate σ ε) (e : ε) (r : Root σ ε) :
    (changeByEmit a e).run r = r.outcome (r.emit a e) := by
  unfold changeByEmit changeState emit Aggregate.apply
  cases h : a.handler? (a.typeOf e) with
  | none => rfl
  | some handler => rfl

theorem eq_missingHandler_of_emit {a : Aggregate σ ε} {r : Root σ ε} {e : ε} {err : Error}
    (h : r.emit a e = .error err) : err = .missingHandler a.name (a.typeOf e) := by
  unfold emit Aggregate.apply at h
  cases hhandler : a.handler? (a.typeOf e) with
  | none =>
    rw [hhandler] at h
    exact (Except.error.inj h).symm
  | some handler =>
    rw [hhandler] at h
    cases h

end Root

/-- A call on an order. -/
inductive OrderCall
  /-- One of the commands. -/
  | command (command : OrderCommand)
  /-- An event emitted as it is. -/
  | emit (x : OrderEvent)

namespace OrderCall

/-- Emits an event in place, unless the order is submitted or the call is refused. -/
def changeUnless (refuses : OrderRoot → Bool) (message : OrderRoot → String) (x : OrderEvent) :
    Root.Change Order OrderEvent Unit := do
  let r ← get
  if r.state.submitted then
    throw (.validation s!"order {r.id.value} has already been submitted")
  if refuses r then throw (.validation (message r))
  Root.changeByEmit Order.aggregate x

/-- What a call does in place. -/
def change : OrderCall → Root.Change Order OrderEvent Unit
  | .command (.add sku quantity) =>
    changeUnless (fun _ => quantity == 0) (fun _ => "quantity must be positive")
      (.itemAdded sku quantity)
  | .command (.remove sku) =>
    changeUnless (fun r => !(r.state.lines.any fun l => l.sku == sku))
      (fun r => s!"sku {sku} not found in order {r.id.value}") (.itemRemoved sku)
  | .command .submit =>
    changeUnless (fun r => r.state.lines.isEmpty) (fun r => s!"order {r.id.value} has no lines")
      .orderSubmitted
  | .emit x => Root.changeByEmit Order.aggregate x

/-- What a call makes of a root that it is given. -/
def perform : OrderCall → OrderRoot → Except Error OrderRoot
  | .command c, r => c.decide r
  | .emit x, r => r.emit Order.aggregate x

/-- The event that a call records if it succeeds. -/
def event : OrderCall → OrderEvent
  | .command c => c.event
  | .emit x => x

theorem run_changeUnless (refuses : OrderRoot → Bool) (message : OrderRoot → String)
    (x : OrderEvent) (r : OrderRoot) :
    (changeUnless refuses message x).run r = r.outcome (do
      r.ensureOpen
      if refuses r then throw (.validation (message r))
      r.record x) := by
  unfold changeUnless
  rw [Root.run_get_bind]
  unfold OrderRoot.ensureOpen
  cases hsubmitted : r.state.submitted with
  | true => rfl
  | false =>
    cases hrefuses : refuses r with
    | true => rfl
    | false => exact Root.run_changeByEmit Order.aggregate x r

/-- **In place, a call does what it does to a root that it is given**, and leaves the root as it was
if it fails. -/
theorem run_change (call : OrderCall) (r : OrderRoot) :
    call.change.run r = r.outcome (call.perform r) := by
  cases call with
  | emit x => exact Root.run_changeByEmit Order.aggregate x r
  | command c =>
    cases c with
    | add sku quantity =>
      refine (run_changeUnless ..).trans ?_
      simp only [beq_iff_eq]
      rfl
    | remove sku => exact run_changeUnless ..
    | submit => exact run_changeUnless ..

/-! ### What one call does -/

variable {call : OrderCall} {r r' : OrderRoot} {err : Error}

/-- A call that succeeds emits its event. -/
theorem emit_of_perform (h : call.perform r = .ok r') :
    r.emit Order.aggregate call.event = .ok r' := by
  cases call with
  | emit x => exact h
  | command c => exact (OrderCommand.decide_eq_ok_iff.1 h).2

/-- The rules refuse a change, or it is made if the event has a handler. -/
theorem eq_validation_of_guarded {p : Prop} [Decidable p] {message : String} {x : OrderEvent}
    {o : Order} (happly : Order.aggregate.apply r.state x = .ok o)
    (h : (do
      r.ensureOpen
      if p then throw (.validation message)
      r.record x : Except Error OrderRoot) = .error err) :
    ∃ message, err = .validation message := by
  unfold OrderRoot.ensureOpen at h
  cases hsubmitted : r.state.submitted with
  | true =>
    rw [hsubmitted] at h
    exact ⟨_, (Except.error.inj h).symm⟩
  | false =>
    rw [hsubmitted] at h
    by_cases hp : p
    · rw [if_pos hp] at h
      exact ⟨_, (Except.error.inj h).symm⟩
    · rw [if_neg hp] at h
      have hrecord : r.record x = .error err := h
      rw [OrderRoot.record, Root.emit, happly] at hrecord
      cases hrecord

/-- Why calls fail: a command since the rules refuse it, an event since it has no handler. -/
theorem perform_eq_error (h : call.perform r = .error err) :
    (∃ c message, call = .command c ∧ err = .validation message) ∨
      ∃ x, call = .emit x ∧ err = .missingHandler Order.aggregate.name x.type := by
  cases call with
  | emit x => exact .inr ⟨x, rfl, Root.eq_missingHandler_of_emit h⟩
  | command c =>
    refine .inl ⟨c, ?_⟩
    have hmessage : ∃ message, err = .validation message := by
      cases c with
      | add sku quantity =>
        exact eq_validation_of_guarded (Order.apply_itemAdded r.state sku quantity) h
      | remove sku => exact eq_validation_of_guarded (Order.apply_itemRemoved r.state sku) h
      | submit => exact eq_validation_of_guarded (Order.apply_orderSubmitted r.state) h
    obtain ⟨message, rfl⟩ := hmessage
    exact ⟨message, rfl, rfl⟩

/-- An order that is submitted refuses every command. -/
theorem perform_of_submitted (h : r.state.submitted = true) (c : OrderCommand) :
    (command c).perform r =
      .error (.validation s!"order {r.id.value} has already been submitted") := by
  have hopen : r.ensureOpen =
      .error (.validation s!"order {r.id.value} has already been submitted") := by
    rw [OrderRoot.ensureOpen, if_pos h]
  cases c with
  | add sku quantity => rw [perform, OrderCommand.decide, OrderRoot.add, hopen]; rfl
  | remove sku => rw [perform, OrderCommand.decide, OrderRoot.remove, hopen]; rfl
  | submit => rw [perform, OrderCommand.decide, OrderRoot.submit, hopen]; rfl

/-- No event reopens an order. -/
theorem submitted_of_apply {o o' : Order} {x : OrderEvent}
    (h : Order.aggregate.apply o x = .ok o') (hsubmitted : o.submitted = true) :
    o'.submitted = true := by
  cases x with
  | itemAdded sku quantity =>
    obtain rfl := Except.ok.inj h
    exact hsubmitted
  | itemRemoved sku =>
    obtain rfl := Except.ok.inj h
    exact hsubmitted
  | orderSubmitted =>
    obtain rfl := Except.ok.inj h
    rfl
  | itemAddedV1 item => cases h
  | bulkItemsAdded items => cases h

/-- What a call does to a root, in place. -/
structure Answers (call : OrderCall) (r : OrderRoot) : Prop where
  /-- It is what the call does to a root that it is given. -/
  agrees : call.change.run r = r.outcome (call.perform r)
  /-- A call that fails changes nothing: the rules refuse a command, or an event has no handler. -/
  refused : ∀ err r', call.change.run r = (.error err, r') → r' = r ∧
    ((∃ c message, call = .command c ∧ err = .validation message) ∨
      ∃ x, call = .emit x ∧ err = .missingHandler Order.aggregate.name x.type)
  /-- A call that succeeds records one event, and changes the state by the handler of that event. -/
  accepted : ∀ r', call.change.run r = (.ok (), r') →
    ∃ o, Order.aggregate.apply r.state call.event = .ok o ∧
      r' = { r with state := o, uncommitted := r.uncommitted ++ [call.event] }
  /-- A submitted order refuses every command. -/
  closed : r.state.submitted = true → ∀ c, call = .command c → call.change.run r =
    (.error (.validation s!"order {r.id.value} has already been submitted"), r)
  /-- An order stays submitted. -/
  stays : r.state.submitted = true → (call.change.run r).2.state.submitted = true

theorem answers (call : OrderCall) (r : OrderRoot) : call.Answers r where
  agrees := run_change call r
  refused err r' h := by
    rw [run_change] at h
    cases hperform : call.perform r with
    | ok r₁ =>
      rw [hperform] at h
      cases h
    | error err₁ =>
      rw [hperform] at h
      obtain ⟨⟨⟩, rfl⟩ := Prod.mk.inj h
      exact ⟨rfl, perform_eq_error hperform⟩
  accepted r' h := by
    rw [run_change] at h
    cases hperform : call.perform r with
    | ok r₁ =>
      rw [hperform] at h
      obtain rfl : r₁ = r' := (Prod.mk.inj h).2
      exact Root.emit_eq_ok_iff.1 (emit_of_perform hperform)
    | error err =>
      rw [hperform] at h
      cases h
  closed hsubmitted c hc := by
    subst hc
    rw [run_change, perform_of_submitted hsubmitted]
    rfl
  stays hsubmitted := by
    rw [run_change]
    cases hperform : call.perform r with
    | ok r₁ =>
      obtain ⟨o, happly, rfl⟩ := Root.emit_eq_ok_iff.1 (emit_of_perform hperform)
      exact submitted_of_apply happly hsubmitted
    | error err => exact hsubmitted

/-! ### Sequences of calls -/

/-- The root after some calls, whether or not they failed. -/
def reached (r : OrderRoot) (calls : List OrderCall) : OrderRoot :=
  calls.foldl (fun r call => (call.change.run r).2) r

@[simp] theorem reached_nil (r : OrderRoot) : reached r [] = r := rfl

/-- The last call is made on the root that the calls before it have left. -/
theorem reached_concat (r : OrderRoot) (calls : List OrderCall) (call : OrderCall) :
    reached r (calls ++ [call]) = (call.change.run (reached r calls)).2 := by
  rw [reached, List.foldl_concat]
  rfl

/-- A call emits its event, or does nothing. -/
theorem emits_run_change {start : OrderRoot} (h : Root.Emits Order.aggregate start r)
    (call : OrderCall) : Root.Emits Order.aggregate start (call.change.run r).2 := by
  rw [run_change]
  cases hperform : call.perform r with
  | ok r₁ => exact .emit h (emit_of_perform hperform)
  | error err => exact h

/-- A root changes by emitting events only, whichever calls fail. -/
theorem emits_reached (start : OrderRoot) (calls : List OrderCall) :
    Root.Emits Order.aggregate start (reached start calls) := by
  induction calls using List.reverseRecOn with
  | nil =>
    rw [reached_nil]
    exact .refl
  | append_singleton calls call ih =>
    rw [reached_concat]
    exact emits_run_change ih call

end OrderCall

/-- The root of a unit of work that began with that state: the state is that of the uncommitted
events, and calls record what they do. -/
structure OrderRoot.KeepsAccount (id : AggregateId) (start : Order) (version : Nat)
    (r : OrderRoot) : Prop where
  /-- Replaying the uncommitted events from the first state gives the state. -/
  replays : Order.aggregate.replay start r.uncommitted = .ok r.state
  id : r.id = id
  version : r.version = version
  /-- What every further call does. -/
  answers : ∀ call : OrderCall, call.Answers r

/-- **After every sequence of calls the state is that of the uncommitted events**, whichever of the
calls fail. -/
theorem OrderRoot.keepsAccount_of_calls (id : AggregateId) (start : Order) (version : Nat)
    (calls : List OrderCall) :
    KeepsAccount id start version (OrderCall.reached ⟨id, start, version, []⟩ calls) := by
  have hemits : Root.Emits Order.aggregate ⟨id, start, version, []⟩
      (OrderCall.reached ⟨id, start, version, []⟩ calls) := OrderCall.emits_reached _ calls
  obtain ⟨es, huncommitted, hreplay, -, hid, hversion⟩ := hemits.spec
  refine ⟨?_, hid, hversion, fun call => call.answers _⟩
  rw [huncommitted]
  exact hreplay

/-- Of these calls the first, the third and the last fail. -/
theorem OrderRoot.keepsAccount_of_failed_calls : ∃ (id : AggregateId) (r : OrderRoot),
    r = OrderCall.reached ⟨id, {}, 7, []⟩ [.command .submit, .command (.add "X" 1),
      .emit (.itemAddedV1 "Y"), .command .submit, .command (.remove "X")] ∧
    r.uncommitted = [.itemAdded "X" 1, .orderSubmitted] ∧ KeepsAccount id {} 7 r :=
  ⟨⟨"order-1", rfl⟩, _, rfl, rfl, keepsAccount_of_calls _ _ _ _⟩

end EventLedger
