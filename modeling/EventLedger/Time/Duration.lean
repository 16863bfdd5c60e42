/-!
# Durations

Lengths of time in whole nanoseconds, up to a greatest one at which arithmetic stays.

## Main definitions

* `Duration` — the lengths, `Duration.ofMillis` and `Duration.scale`.
-/

namespace EventLedger

/-- A length of time in nanoseconds. -/
structure Duration where
  /-- The number of nanoseconds. -/
  nanos : Nat
  deriving DecidableEq, Repr, Inhabited

namespace Duration

/-- Nanoseconds in a second. -/
def nanosPerSecond : Nat := 1000000000

/-- Nanoseconds in a millisecond. -/
def nanosPerMilli : Nat := 1000000

/-- The greatest duration: `2 ^ 64 - 1` seconds and 999999999 nanoseconds. -/
def greatest : Duration := ⟨18446744073709551615 * nanosPerSecond + 999999999⟩

/-- No time at all. -/
def zero : Duration := ⟨0⟩

/-- Whole seconds and nanoseconds. -/
def ofParts (secs nanos : Nat) : Duration := ⟨secs * nanosPerSecond + nanos⟩

/-- Whole milliseconds. -/
def ofMillis (ms : Nat) : Duration := ⟨ms * nanosPerMilli⟩

/-- Whole seconds. -/
def ofSeconds (s : Nat) : Duration := ⟨s * nanosPerSecond⟩

/-- The whole seconds of a duration. -/
def seconds (d : Duration) : Nat := d.nanos / nanosPerSecond

/-- The nanoseconds beyond the whole seconds. -/
def subsecNanos (d : Duration) : Nat := d.nanos % nanosPerSecond

/-- A multiple of a duration, at most the greatest one. -/
def scale (d : Duration) (n : Nat) : Duration := ⟨min (d.nanos * n) greatest.nanos⟩

/-- The shorter of two durations. -/
def shorter (d e : Duration) : Duration := ⟨min d.nanos e.nanos⟩

/-- The duration rounded up to whole milliseconds, the grain of timers. -/
def millisUp (d : Duration) : Nat := (d.nanos + (nanosPerMilli - 1)) / nanosPerMilli

end Duration

end EventLedger
