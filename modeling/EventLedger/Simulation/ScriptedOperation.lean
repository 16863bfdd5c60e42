import EventLedger.Json.Value
import EventLedger.Simulation.RetryClient

/-!
# Scripted operations

An operation whose outcomes are given beforehand, tried again as a strategy decides.

## Main definitions

* `Script`, `Script.run` — the outcomes, and the operation that takes them one by one.
-/

namespace EventLedger.Simulation

/-- The outcomes of an operation that yields values of type `α`. -/
structure Script (α : Type) where
  /-- The outcomes of its calls in order; the last one repeats. -/
  outcomes : List (Except TableError α)
  /-- The outcome if there is none. -/
  otherwise : Except TableError α
  /-- The call, counted from 1, during which the caller cancels. -/
  cancelsOn : Option Nat := none

/-- The interface of a scripted operation: its only request is to be called. -/
def scriptInterface (α : Type) : Interface := ⟨Unit, fun _ => Except TableError α⟩

namespace Script

variable {α : Type}

/-- The outcome of call number `n`, counted from 1. -/
def outcome (s : Script α) (n : Nat) : Except TableError α :=
  (s.outcomes[n - 1]?.or s.outcomes.getLast?).getD s.otherwise

/-- The answer to a request; the client counts the calls. -/
def answer (s : Script α) : (q : RetryRequest (scriptInterface α)) → RetryClient Nat →
    q.Answer × RetryClient Nat
  | .inner (), c =>
    let n := c.inner + 1
    let token := if s.cancelsOn = some n then c.token.fire else c.token
    (s.outcome n, { c with inner := n, token := token })
  | q, c => RetryClient.answer (I := scriptInterface α) (fun _ n => (s.otherwise, n)) q c

/-- One attempt. -/
def operation : RetryCall (scriptInterface α) α := do
  Call.ofExcept (← RetryCall.inner (I := scriptInterface α) ())

/-- The operation tried as the strategy decides. -/
def run (s : Script α) (strategy : RetryStrategy) (heedsToken : Bool) (c : RetryClient Nat) :
    Except TableError α × RetryClient Nat :=
  Call.runState (I := retryInterface (scriptInterface α)) s.answer
    (retryTransient strategy heedsToken operation) c

end Script

end EventLedger.Simulation
