import EventLedger.Time.Duration

/-!
# A caller in simulated time

A caller whose token is set, or is set at a time of its own, and a clock that moves only while
something waits.

## Main definitions

* `Token`, `Token.start` — a token and the time at which it is set.
* `timed` — how long a timer runs.
* `Token.pause`, `Token.sleep` — waits.
-/

namespace EventLedger.Simulation

/-- A caller's token. -/
structure Token where
  /-- Whether the caller has cancelled. -/
  fired : Bool := false
  /-- The millisecond at which the caller cancels, if it does so by time. -/
  firesAt : Option Nat := none
  deriving DecidableEq, Repr, Inhabited

/-- The milliseconds that a timer runs at most: thirty years of 365 days. -/
def longestTimer : Nat := 946080000000

/-- The milliseconds that a timer set to `ms` runs. -/
def timed (ms : Nat) : Nat := min ms longestTimer

namespace Token

/-- A token which its caller sets at once if `fired`, and otherwise after the given milliseconds, if
any, from the millisecond `now` on. -/
def start (now : Nat) (fired : Bool) (after : Option Nat) : Token :=
  ⟨fired, after.map fun ms => now + timed ms⟩

/-- The token after the caller cancelled. -/
def fire (t : Token) : Token := { t with fired := true }

/-- The token once the clock has passed a millisecond. -/
def passed (t : Token) (now : Nat) : Token :=
  if t.firesAt.any (· < now) then t.fire else t

/-- A wait of `d` that starts at the millisecond `now` and ends when the caller cancels: whether it
did, the token and the time afterwards. -/
def pause (t : Token) (now : Nat) (d : Duration) : Bool × Token × Nat :=
  if t.fired then (true, t, now)
  else
    let done := now + timed d.millisUp
    match t.firesAt with
    | some time => if time < done then (true, t.fire, max now time) else (false, t, done)
    | none => (false, t, done)

/-- A wait of `d` that starts at the millisecond `now` and that nothing ends early: the token and
the time afterwards. -/
def sleep (t : Token) (now : Nat) (d : Duration) : Token × Nat :=
  let done := now + timed d.millisUp
  (t.passed done, done)

end Token

end EventLedger.Simulation
