import EventLedger.Time.Instant
import Mathlib.Algebra.Order.Group.Unbundled.Int
import Mathlib.Data.Int.Order.Basic

/-!
# Deadlines

Outside leap seconds an instant is a number of nanoseconds, and instants are compared as these
numbers.  A deadline is the sum of an instant and a duration, or the end of the calendar if the sum
lies beyond it.

## Main definitions

* `Instant.total` — the nanoseconds from the start of 1970.

## Main results

* `Instant.isBefore_after_iff` — **a deadline lies a duration after its start, within the
  calendar.**
-/

namespace EventLedger.Instant

open Duration (nanosPerSecond)

/-- The nanoseconds from the start of 1970, leap seconds aside. -/
def total (t : Instant) : Int := t.second * nanosPerSecond + t.nanos

variable {t u : Instant}

theorem isLeap_eq_false_iff : t.isLeap = false ↔ t.nanos < nanosPerSecond := by
  rw [isLeap, decide_eq_false_iff_not, Nat.not_le]

theorem total_carry (second nanos : Int) :
    (carry second nanos).total = second * nanosPerSecond + nanos := by
  simp only [total, carry, nanosPerSecond]
  omega

theorem isLeap_carry (second nanos : Int) : (carry second nanos).isLeap = false := by
  rw [isLeap_eq_false_iff]
  simp only [carry, nanosPerSecond]
  omega

theorem isBefore_iff_total (ht : t.isLeap = false) (hu : u.isLeap = false) :
    t.isBefore u = true ↔ t.total < u.total := by
  rw [isLeap_eq_false_iff, nanosPerSecond] at ht hu
  simp only [isBefore, total, nanosPerSecond, Bool.or_eq_true, Bool.and_eq_true,
    decide_eq_true_eq, beq_iff_eq]
  omega

/-- Outside leap seconds, moving an instant adds the nanoseconds. -/
theorem shift_spec (ht : t.isLeap = false) (nanos : Int) :
    (t.shift nanos).isLeap = false ∧ (t.shift nanos).total = t.total + nanos := by
  have hsplit : nanos.tdiv nanosPerSecond * nanosPerSecond + nanos.tmod nanosPerSecond = nanos := by
    rw [Int.mul_comm]
    exact Int.mul_tdiv_add_tmod nanos _
  have hshift : t.shift nanos =
      carry (t.second + nanos.tdiv nanosPerSecond) (t.nanos + nanos.tmod nanosPerSecond) := by
    simp only [shift, ht, Bool.false_eq_true, if_false]
  refine ⟨hshift ▸ isLeap_carry _ _, ?_⟩
  rw [hshift, total_carry, total, Int.add_mul]
  omega

/-- Outside leap seconds the last instant of the calendar is the greatest of its second. -/
theorem last_second_lt_iff (hu : u.isLeap = false) :
    last.second < u.second ↔ last.total < u.total := by
  rw [isLeap_eq_false_iff, nanosPerSecond] at hu
  simp only [last, total, nanosPerSecond]
  omega

/-- **A deadline lies a duration after its start, within the calendar**, leap seconds aside. -/
theorem isBefore_after_iff (ht : t.isLeap = false) (hu : u.isLeap = false) (d : Duration) :
    u.isBefore (t.after d) = true ↔ u.total < min (t.total + d.nanos) last.total := by
  obtain ⟨hleap, htotal⟩ := shift_spec ht d.nanos
  have hlast : last.isLeap = false := by decide
  unfold after
  dsimp only
  split
  next hbeyond =>
    rw [last_second_lt_iff hleap, htotal] at hbeyond
    rw [isBefore_iff_total hu hlast, min_eq_right hbeyond.le]
  next hwithin =>
    rw [last_second_lt_iff hleap, htotal, not_lt] at hwithin
    rw [isBefore_iff_total hu hleap, htotal, min_eq_left hwithin]

end EventLedger.Instant
