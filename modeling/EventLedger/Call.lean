/-!
# Calls

A call is a program of one client: it asks its surroundings one thing after another, and each answer
decides how it goes on, until it is done or fails.  A call is data, so one definition is run against
storage, is run in a simulation, and is interleaved with the calls of other clients.

## Main definitions

* `Interface` — the requests that a call may make and the type of the answer to each.
* `Call` — the programs, a monad; `Call.ask`, `Call.fail`, `Call.outcome`.
* `Call.servedBy` — a call in which every request is served by a call over another interface.
* `Call.runState` — a call run to its end by a state that answers every request.
* `Call.runPast` — a call run up to an answer at which it is held.
-/

namespace EventLedger

/-- The requests that a call may make, with the type of the answer to each. -/
structure Interface where
  /-- The requests. -/
  Request : Type
  /-- The answers. -/
  Answer : Request → Type

/-- A program over an interface that yields an `α` or fails with an `ε`. -/
inductive Call (I : Interface) (ε α : Type)
  /-- The call has ended with a result. -/
  | done (a : α)
  /-- The call has failed. -/
  | failed (e : ε)
  /-- The call waits for an answer. -/
  | waiting (q : I.Request) (next : I.Answer q → Call I ε α)

namespace Call

variable {I J : Interface} {ε φ α β : Type}

/-- One call after another. -/
def bind : Call I ε α → (α → Call I ε β) → Call I ε β
  | done a, f => f a
  | failed e, _ => failed e
  | waiting q next, f => waiting q fun a => (next a).bind f

instance : Monad (Call I ε) where
  pure := done
  bind := bind

/-- Makes a request. -/
def ask (q : I.Request) : Call I ε (I.Answer q) := waiting q done

/-- Fails. -/
def fail (e : ε) : Call I ε α := failed e

/-- A result or a failure that has been computed. -/
def ofExcept : Except ε α → Call I ε α
  | .ok a => done a
  | .error e => failed e

/-- The call whose failure is a result. -/
def outcome : Call I ε α → Call I φ (Except ε α)
  | done a => done (.ok a)
  | failed e => done (.error e)
  | waiting q next => waiting q fun a => (next a).outcome

/-- The call with another kind of failures. -/
def mapError (f : ε → φ) : Call I ε α → Call I φ α
  | done a => done a
  | failed e => failed (f e)
  | waiting q next => waiting q fun a => (next a).mapError f

/-- The call in which every request is served by a call over another interface. -/
def servedBy (serve : (q : I.Request) → Call J ε (I.Answer q)) : Call I ε α → Call J ε α
  | done a => done a
  | failed e => failed e
  | waiting q next => (serve q).bind fun a => (next a).servedBy serve

/-- The call run to its end from a state that answers every request. -/
def runState {σ : Type} (answer : (q : I.Request) → σ → I.Answer q × σ) :
    Call I ε α → σ → Except ε α × σ
  | done a, s => (.ok a, s)
  | failed e, s => (.error e, s)
  | waiting q next, s =>
    let r := answer q s
    (next r.1).runState answer r.2

/-- The call run up to and including the first answer that `holds` it: what is left of the call, and
the state. -/
def runPast {σ : Type} (answer : (q : I.Request) → σ → I.Answer q × σ)
    (holds : (q : I.Request) → I.Answer q → Bool) : Call I ε α → σ → Call I ε α × σ
  | done a, s => (done a, s)
  | failed e, s => (failed e, s)
  | waiting q next, s =>
    let r := answer q s
    if holds q r.1 then (next r.1, r.2) else (next r.1).runPast answer holds r.2

@[simp] theorem pure_eq_done (a : α) : (pure a : Call I ε α) = done a := rfl

@[simp] theorem bind_eq_bind (c : Call I ε α) (f : α → Call I ε β) : c >>= f = c.bind f := rfl

@[simp] theorem done_bind (a : α) (f : α → Call I ε β) : (done a).bind f = f a := rfl

@[simp] theorem failed_bind (e : ε) (f : α → Call I ε β) : (failed e).bind f = failed e := rfl

@[simp] theorem waiting_bind (q : I.Request) (next : I.Answer q → Call I ε α) (f : α → Call I ε β) :
    (waiting q next).bind f = waiting q fun a => (next a).bind f := rfl

@[simp] theorem bind_done (c : Call I ε α) : c.bind done = c := by
  induction c with
  | done a => rfl
  | failed e => rfl
  | waiting q next ih => simp [ih]

theorem bind_assoc {γ : Type} (c : Call I ε α) (f : α → Call I ε β) (g : β → Call I ε γ) :
    (c.bind f).bind g = c.bind fun a => (f a).bind g := by
  induction c with
  | done a => rfl
  | failed e => rfl
  | waiting q next ih => simp [ih]

end Call

end EventLedger
