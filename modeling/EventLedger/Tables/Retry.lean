import EventLedger.Backoff
import EventLedger.Call
import EventLedger.Tables.Failure

/-!
# Retrying transient failures

An operation on a database is tried again after a failure that may pass, a bounded number of times
and with growing delays.  The caller's token is heeded before each attempt and during each delay,
unless the operation must not be given up half way.

## Main definitions

* `RetryStrategy`, `RetryStrategy.decide` — whether and after which delay to try again.
* `RetryRequest`, `retryInterface` — an operation's own requests, and those of the loop around it.
* `retryTransient` — the loop.
-/

namespace EventLedger

/-- When a failed attempt is followed by another. -/
inductive RetryStrategy
  /-- Never. -/
  | never
  /-- After a transient failure, until the given number of attempts was made. -/
  | transient (maxAttempts : Nat) (backoff : Backoff)
  deriving DecidableEq, Repr

/-- The settings of a strategy. -/
structure RetryConfig where
  /-- Attempts, the first one included. -/
  maxAttempts : Nat := 5
  /-- The delays between them. -/
  backoff : BackoffSetting := .exponential 20 1000
  deriving DecidableEq, Repr, Inhabited

namespace RetryConfig

/-- The fields of the settings, each of which may be left out. -/
def shape : RecordShape :=
  { name := "struct PgRetryConfig"
    fields := [("max_attempts", Json.check (Json.readWord Json.word32)),
      ("backoff", Json.check BackoffSetting.decode)]
    optional := true }

/-- The settings that a value describes; what it leaves out has its default. -/
def decode (j : Json) : Except DecodeError RetryConfig := do
  let fields ← shape.read j
  let standard : RetryConfig := {}
  let attempts ← Json.fieldOr fields "max_attempts" (Json.readWord Json.word32) standard.maxAttempts
  let backoff ← Json.fieldOr fields "backoff" BackoffSetting.decode standard.backoff
  pure ⟨attempts, backoff⟩

/-- The strategy that the settings describe. -/
def strategy (c : RetryConfig) : RetryStrategy := .transient c.maxAttempts c.backoff.backoff

end RetryConfig

namespace RetryStrategy

/-- The strategy of the default settings. -/
def standard : RetryStrategy := RetryConfig.strategy {}

/-- The delay before the next attempt after attempt number `attempt`, counted from 1, has failed;
none if there is to be no further attempt. -/
def decide (s : RetryStrategy) (e : TableError) (attempt : Nat) : Option Duration :=
  match s, e with
  | .transient maxAttempts backoff, .database f =>
    if attempt < maxAttempts ∧ f.isTransient then some (backoff.delay attempt) else none
  | _, _ => none

/-- The greatest number of attempts after the first. -/
def furtherAttempts : RetryStrategy → Nat
  | .never => 0
  | .transient maxAttempts _ => maxAttempts - 1

end RetryStrategy

/-- What an operation that is retried asks: its own requests, and those of the loop around it. -/
inductive RetryRequest (I : Interface)
  /-- A request of the operation. -/
  | inner (q : I.Request)
  /-- Whether the caller has cancelled. -/
  | isCancelled
  /-- Wait; the answer tells whether the caller cancelled meanwhile. -/
  | pause (d : Duration)
  /-- Wait, whether the caller cancels or not. -/
  | sleep (d : Duration)
  /-- A notice of what the strategy decided after a failed attempt. -/
  | decided (attempt : Nat) (delay : Option Duration)

/-- The answer to a request of a retried operation. -/
def RetryRequest.Answer {I : Interface} : RetryRequest I → Type
  | .inner q => I.Answer q
  | .isCancelled => Bool
  | .pause _ => Bool
  | .sleep _ => Unit
  | .decided .. => Unit

/-- The interface of an operation that is retried. -/
def retryInterface (I : Interface) : Interface := ⟨RetryRequest I, RetryRequest.Answer⟩

/-- A call of an operation that is retried. -/
abbrev RetryCall (I : Interface) (α : Type) := Call (retryInterface I) TableError α

namespace RetryCall

variable {I : Interface} {α : Type}

/-- Makes a request of the operation. -/
def inner (q : I.Request) : RetryCall I (I.Answer q) := Call.ask (I := retryInterface I) (.inner q)

/-- Whether the caller has cancelled. -/
def isCancelled : RetryCall I Bool := Call.ask (I := retryInterface I) .isCancelled

/-- Waits; tells whether the caller cancelled meanwhile. -/
def pause (d : Duration) : RetryCall I Bool := Call.ask (I := retryInterface I) (.pause d)

/-- Waits, whether the caller cancels or not. -/
def sleep (d : Duration) : RetryCall I Unit := Call.ask (I := retryInterface I) (.sleep d)

/-- Gives notice of what the strategy decided. -/
def decided (attempt : Nat) (delay : Option Duration) : RetryCall I Unit :=
  Call.ask (I := retryInterface I) (.decided attempt delay)

/-- Fails if the caller's token is heeded and the caller has cancelled. -/
def checkLive (heedsToken : Bool) : RetryCall I Unit := do
  if heedsToken then
    if ← isCancelled then Call.fail (.ledger .cancelled)

/-- Waits; fails if the caller's token is heeded and the caller cancels meanwhile. -/
def delay (heedsToken : Bool) (d : Duration) : RetryCall I Unit := do
  if heedsToken then
    if ← pause d then Call.fail (.ledger .cancelled)
  else sleep d

/-- Attempt number `n` of an operation and those after it, of which there are at most `further`. -/
def attemptFrom (s : RetryStrategy) (heedsToken : Bool) (operation : RetryCall I α) :
    Nat → Nat → RetryCall I α
  | further, n => do
    checkLive heedsToken
    match ← operation.outcome with
    | .ok a => pure a
    | .error e =>
      decided n (s.decide e n)
      match s.decide e n, further with
      | some d, further + 1 =>
        delay heedsToken d
        attemptFrom s heedsToken operation further (n + 1)
      | _, _ => Call.fail e

end RetryCall

/-- An operation tried until it succeeds, fails for good or the strategy gives up. -/
def retryTransient {I : Interface} {α : Type} (s : RetryStrategy) (heedsToken : Bool)
    (operation : RetryCall I α) : RetryCall I α :=
  RetryCall.attemptFrom s heedsToken operation s.furtherAttempts 1

end EventLedger
