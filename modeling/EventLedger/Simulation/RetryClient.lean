import EventLedger.Simulation.Caller
import EventLedger.Tables.Retry

/-!
# Retried operations in simulated time

A client that runs a retried operation, keeps a record of what its strategy decided and lets
simulated time pass while it waits.

## Main definitions

* `RetryClient` — the state of the operation's surroundings, the token, the time and the decisions.
* `RetryClient.run` — a retried operation run to its end.
-/

namespace EventLedger.Simulation

/-- The surroundings of retried operations. -/
structure RetryClient (σ : Type) where
  /-- What answers the operation's own requests. -/
  inner : σ
  /-- The caller's token. -/
  token : Token := {}
  /-- The time in milliseconds. -/
  now : Nat := 0
  /-- What the strategy decided after each failed attempt, the last decision first. -/
  decisions : List (Nat × Option Duration) := []

namespace RetryClient

variable {I : Interface} {σ : Type}

/-- The answer to a request of a retried operation. -/
def answer (serve : (q : I.Request) → σ → I.Answer q × σ) :
    (q : RetryRequest I) → RetryClient σ → q.Answer × RetryClient σ
  | .inner q, c =>
    let r := serve q c.inner
    (r.1, { c with inner := r.2 })
  | .isCancelled, c => (c.token.fired, c)
  | .pause d, c =>
    let r := c.token.pause c.now d
    (r.1, { c with token := r.2.1, now := r.2.2 })
  | .sleep d, c =>
    let r := c.token.sleep c.now d
    ((), { c with token := r.1, now := r.2 })
  | .decided attempt delay, c => ((), { c with decisions := (attempt, delay) :: c.decisions })

/-- Runs a retried operation to its end. -/
def run {α : Type} (serve : (q : I.Request) → σ → I.Answer q × σ) (call : RetryCall I α)
    (c : RetryClient σ) : Except TableError α × RetryClient σ :=
  Call.runState (I := retryInterface I) (answer serve) call c

/-- Takes the record of the decisions, in their order. -/
def takeDecisions (c : RetryClient σ) : List (Nat × Option Duration) × RetryClient σ :=
  (c.decisions.reverse, { c with decisions := [] })

end RetryClient

end EventLedger.Simulation
