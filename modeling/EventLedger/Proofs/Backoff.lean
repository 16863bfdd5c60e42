import EventLedger.Backoff
import EventLedger.Number.Unsigned
import Mathlib.Algebra.Group.Nat.Defs

/-!
# Schedules of delays

An exponential schedule doubles its first delay for each attempt after the first.  The factor has 32
bits, so the doubling ends with the 32nd attempt, and every later attempt waits as long as that one.
A schedule whose longest delay is reached by then never shows this.

Nothing overflows on the way: the nanoseconds of a duration times the factor have 64 bits, and where
the seconds would have more, the multiple is the greatest duration.

## Main definitions

* `Duration.Fits d` — the seconds of `d` have 64 bits.
* `Duration.carried secs nanos n` — the seconds of a multiple, with what the nanoseconds carry.
* `Backoff.factor attempt` — the factor of the first delay.
* `Backoff.doubled initial longest attempt` — the delay if the doubling had no end.
* `Backoff.Paces initial longest` — how an exponential schedule goes on.

## Main results

* `Duration.scale_ofParts` — how a multiple is computed from seconds and nanoseconds.
* `Backoff.delay_eq_doubled_iff` — at which attempts the delay is that of doubling without end.
* `Backoff.paces_exponential` — **how an exponential schedule goes on.**
-/

namespace EventLedger

/-! ### Multiples of durations -/

namespace Duration

variable {d e : Duration}

@[simp] theorem nanos_scale (d : Duration) (n : Nat) :
    (d.scale n).nanos = min (d.nanos * n) greatest.nanos := rfl

@[simp] theorem nanos_shorter (d e : Duration) : (d.shorter e).nanos = min d.nanos e.nanos := rfl

theorem nanos_greatest : greatest.nanos = greatestWord64 * nanosPerSecond + 999999999 := rfl

theorem eq_iff : d = e ↔ d.nanos = e.nanos := by
  cases d
  cases e
  simp

/-- The seconds of the duration have 64 bits. -/
def Fits (d : Duration) : Prop := d.seconds ≤ greatestWord64

theorem fits_iff : d.Fits ↔ d.nanos ≤ greatest.nanos := by
  simp only [Fits, seconds, nanos_greatest, greatestWord64, nanosPerSecond]
  omega

/-- The seconds of a multiple of seconds and nanoseconds, with what the nanoseconds carry. -/
def carried (secs nanos n : Nat) : Nat := secs * n + nanos * n / nanosPerSecond

/-- A multiple is computed from seconds and nanoseconds, and is the greatest duration if its seconds
have more than 64 bits. -/
theorem scale_ofParts (secs nanos n : Nat) : (ofParts secs nanos).scale n =
    if carried secs nanos n ≤ greatestWord64 then
      ofParts (carried secs nanos n) (nanos * n % nanosPerSecond)
    else greatest := by
  have hsplit : (secs * nanosPerSecond + nanos) * n =
      carried secs nanos n * nanosPerSecond + nanos * n % nanosPerSecond := by
    have hnanos := Nat.div_add_mod (nanos * n) nanosPerSecond
    rw [carried, Nat.add_mul, Nat.add_mul, Nat.mul_right_comm, Nat.add_assoc,
      Nat.mul_comm (nanos * n / nanosPerSecond), hnanos]
  have hrest : nanos * n % nanosPerSecond < nanosPerSecond := Nat.mod_lt _ (by decide)
  generalize nanos * n % nanosPerSecond = rest at *
  rw [eq_iff, nanos_scale, nanos_greatest, ofParts, hsplit]
  by_cases hfits : carried secs nanos n ≤ greatestWord64
  · rw [if_pos hfits, ofParts]
    simp only [greatestWord64, nanosPerSecond] at *
    omega
  · rw [if_neg hfits, nanos_greatest]
    simp only [greatestWord64, nanosPerSecond] at *
    omega

end Duration

/-! ### Doubling -/

namespace Backoff

open Duration (carried greatest nanosPerSecond ofParts)

/-- The factor of the first delay at an attempt. -/
def factor (attempt : Nat) : Nat := 2 ^ min (attempt - 1) greatestDoublings

/-- The delay of an attempt if the doubling had no end: the first delay times a power of two, or the
greatest duration if that is less, or the longest delay if that is less. -/
def doubled (initial longest : Duration) (attempt : Nat) : Duration :=
  ⟨min (min (initial.nanos * 2 ^ (attempt - 1)) greatest.nanos) longest.nanos⟩

variable {initial longest : Duration} {a b : Nat}

theorem nanos_doubled (initial longest : Duration) (a : Nat) : (doubled initial longest a).nanos =
    min (min (initial.nanos * 2 ^ (a - 1)) greatest.nanos) longest.nanos := rfl

theorem factor_of_le (h : a ≤ greatestDoublings + 1) : factor a = 2 ^ (a - 1) := by
  rw [factor, Nat.min_eq_left (by omega)]

theorem factor_of_ge (h : greatestDoublings + 1 ≤ a) : factor a = 2 ^ greatestDoublings := by
  rw [factor, Nat.min_eq_right (by omega)]

theorem factor_mono (h : a ≤ b) : factor a ≤ factor b :=
  Nat.pow_le_pow_right (Nat.succ_pos 1) (by omega)

/-- The factor has 32 bits. -/
theorem factor_le (a : Nat) : factor a ≤ greatestWord32 :=
  calc factor a ≤ 2 ^ greatestDoublings :=
        Nat.pow_le_pow_right (Nat.succ_pos 1) (Nat.min_le_right _ _)
    _ ≤ greatestWord32 := by decide

theorem delay_exponential (initial longest : Duration) (a : Nat) :
    (exponential initial longest).delay a = (initial.scale (factor a)).shorter longest := by
  rw [delay, factor, Nat.one_shiftLeft]

theorem nanos_delay (initial longest : Duration) (a : Nat) :
    ((exponential initial longest).delay a).nanos =
      min (min (initial.nanos * factor a) greatest.nanos) longest.nanos := by
  rw [delay_exponential, Duration.nanos_shorter, Duration.nanos_scale]

/-- The delay is that of doubling without end up to the 32nd attempt.  Later it is so if there is
nothing to double, or nothing longer to come to. -/
theorem delay_eq_doubled_iff : (exponential initial longest).delay a = doubled initial longest a ↔
    a ≤ greatestDoublings + 1 ∨ initial.nanos = 0 ∨
      min longest.nanos greatest.nanos ≤ initial.nanos * 2 ^ greatestDoublings := by
  rw [Duration.eq_iff, nanos_delay, nanos_doubled]
  by_cases ha : a ≤ greatestDoublings + 1
  · rw [factor_of_le ha]
    exact iff_of_true rfl (.inl ha)
  · rw [factor_of_ge (by omega), or_iff_right ha]
    rcases initial.nanos.eq_zero_or_pos with hzero | hpos
    · simp [hzero]
    · have hgrows : initial.nanos * 2 ^ greatestDoublings < initial.nanos * 2 ^ (a - 1) :=
        Nat.mul_lt_mul_of_pos_left (Nat.pow_lt_pow_right (by decide) (by omega)) hpos
      generalize initial.nanos * 2 ^ greatestDoublings = low at *
      generalize initial.nanos * 2 ^ (a - 1) = high at *
      omega

theorem nanos_delay_mono (h : a ≤ b) : ((exponential initial longest).delay a).nanos ≤
    ((exponential initial longest).delay b).nanos := by
  have hgrows : initial.nanos * factor a ≤ initial.nanos * factor b :=
    Nat.mul_le_mul_left _ (factor_mono h)
  rw [nanos_delay, nanos_delay]
  omega

/-- How an exponential schedule goes on. -/
structure Paces (initial longest : Duration) : Prop where
  /-- Up to the 32nd attempt the delay is the first one, doubled for each attempt after the first, and
  not longer than the longest one. -/
  doubles : ∀ attempt, 1 ≤ attempt → attempt ≤ greatestDoublings + 1 →
    (exponential initial longest).delay attempt = doubled initial longest attempt
  /-- Every later attempt waits as long as the 32nd. -/
  levels : ∀ attempt, greatestDoublings + 1 ≤ attempt →
    (exponential initial longest).delay attempt =
      (exponential initial longest).delay (greatestDoublings + 1)
  /-- That is as long as if the doubling went on just if there is nothing to double, or the longest
  delay or the greatest duration is reached. -/
  agrees : ∀ attempt, greatestDoublings + 1 < attempt →
    ((exponential initial longest).delay attempt = doubled initial longest attempt ↔
      initial.nanos = 0 ∨
        min longest.nanos greatest.nanos ≤ initial.nanos * 2 ^ greatestDoublings)
  /-- No delay is shorter than one before. -/
  rises : ∀ attempt later, attempt ≤ later →
    ((exponential initial longest).delay attempt).nanos ≤
      ((exponential initial longest).delay later).nanos
  /-- No delay is longer than the longest one. -/
  capped : ∀ attempt, ((exponential initial longest).delay attempt).nanos ≤ longest.nanos
  /-- Every delay is a duration. -/
  fits : ∀ attempt, ((exponential initial longest).delay attempt).Fits
  /-- A delay is computed from seconds and nanoseconds without overflow: the factor has 32 bits, the
  nanoseconds times the factor have 64, and if the seconds have more, the multiple is the greatest
  duration. -/
  computed : ∀ secs nanos attempt, initial = ofParts secs nanos → nanos < nanosPerSecond →
    factor attempt ≤ greatestWord32 ∧ nanos * factor attempt ≤ greatestWord64 ∧
    (exponential initial longest).delay attempt =
      (if carried secs nanos (factor attempt) ≤ greatestWord64 then
        ofParts (carried secs nanos (factor attempt)) (nanos * factor attempt % nanosPerSecond)
      else greatest).shorter longest

/-- **How an exponential schedule goes on**, whatever its first and its longest delay. -/
theorem paces_exponential (initial longest : Duration) : Paces initial longest where
  doubles attempt _ hattempt := delay_eq_doubled_iff.2 (.inl hattempt)
  levels attempt hattempt := by
    rw [delay_exponential, delay_exponential, factor_of_ge hattempt, factor_of_ge (Nat.le_refl _)]
  agrees attempt hattempt := by
    rw [delay_eq_doubled_iff, or_iff_right (Nat.not_le.2 hattempt)]
  rises attempt later h := nanos_delay_mono h
  capped attempt := by
    rw [nanos_delay]
    exact Nat.min_le_right _ _
  fits attempt := by
    rw [Duration.fits_iff, nanos_delay]
    omega
  computed secs nanos attempt := by
    rintro rfl hnanos
    have hfactor := factor_le attempt
    refine ⟨hfactor, ?_, ?_⟩
    · calc nanos * factor attempt ≤ nanosPerSecond * greatestWord32 :=
            Nat.mul_le_mul (Nat.le_of_lt hnanos) hfactor
        _ ≤ greatestWord64 := by decide
    · rw [delay_exponential, Duration.scale_ofParts]

/-- From a nanosecond on, the doubling ends long before the longest delay is reached. -/
theorem levels_below_longest :
    (exponential ⟨1⟩ (.ofSeconds greatestWord64)).delay 33 = ⟨2147483648⟩ ∧
      (exponential ⟨1⟩ (.ofSeconds greatestWord64)).delay 33 ≠
        doubled ⟨1⟩ (.ofSeconds greatestWord64) 33 := by
  refine ⟨rfl, ?_⟩
  rw [ne_eq, delay_eq_doubled_iff]
  decide

end Backoff

end EventLedger
