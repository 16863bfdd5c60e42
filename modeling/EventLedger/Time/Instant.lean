import EventLedger.Time.Duration

/-!
# Instants

Points in time counted from the start of 1970 (UTC), and their text in the form of RFC 3339.  The
last second of a minute may be followed by a leap second, which has the same number: its nanoseconds
are counted on from those of the second before it.

## Main definitions

* `Instant`, `Instant.ofParts?`, `Instant.isBefore` — instants and their order.
* `Instant.shift`, `Instant.after` — the instant some time later or earlier, and the one a duration
  later within the calendar.
* `Instant.text` — the date, the time and the offset `+00:00`.
-/

namespace EventLedger

/-- A point in time. -/
structure Instant where
  /-- The seconds from the start of 1970, negative before it. -/
  second : Int
  /-- The nanoseconds since that second began, `10 ^ 9` and more in a leap second. -/
  nanos : Nat
  deriving DecidableEq, Repr, Inhabited

namespace Instant

open Duration (nanosPerSecond)

/-- The first instant of the calendar, the start of the year -262143. -/
def first : Instant := ⟨-8334601228800, 0⟩

/-- The last instant of the calendar, the end of the year 262142. -/
def last : Instant := ⟨8210266876799, 999999999⟩

/-- Whether an instant comes before another: by the second, then by the nanoseconds. -/
def isBefore (t u : Instant) : Bool :=
  t.second < u.second || (t.second == u.second && t.nanos < u.nanos)

/-- Whether an instant lies in a leap second. -/
def isLeap (t : Instant) : Bool := nanosPerSecond ≤ t.nanos

/-- The instant of a second and the nanoseconds since it began.  There is none outside the calendar,
and a leap second follows only the last second of a minute. -/
def ofParts? (second : Int) (nanos : Nat) : Option Instant :=
  let t : Instant := ⟨second, nanos⟩
  let fits := nanos < nanosPerSecond || (nanos < 2 * nanosPerSecond && second % 60 == 59)
  if fits && first.second ≤ second && second ≤ last.second then some t else none

/-- The instant moved by whole seconds and nanoseconds, leap seconds aside. -/
def carry (second : Int) (nanos : Int) : Instant :=
  ⟨second + nanos / nanosPerSecond, (nanos % nanosPerSecond).toNat⟩

/-- The instant moved by a signed number of nanoseconds.  Inside a leap second the time goes on; who
leaves it forwards has not passed it, and who goes back by a second or more starts after it. -/
def shift (t : Instant) (nanos : Int) : Instant :=
  let secs := nanos.tdiv nanosPerSecond
  let part := nanos.tmod nanosPerSecond
  if t.isLeap then
    let rest : Int := (t.nanos : Int) - nanosPerSecond
    if 0 < secs ∨ (nanosPerSecond : Int) ≤ rest + part then carry (t.second + secs) (rest + part)
    else if secs < 0 then carry (t.second + 1 + secs) (rest + part)
    else ⟨t.second, (t.nanos + part).toNat⟩
  else carry (t.second + secs) (t.nanos + part)

/-- The instant a duration later, or the last one where the calendar has ended by then.  A leap
second at its end still belongs to it. -/
def after (t : Instant) (d : Duration) : Instant :=
  let u := t.shift d.nanos
  if last.second < u.second then last else u

/-- A date of the Gregorian calendar. -/
structure Date where
  /-- The year; 0 is the year before 1. -/
  year : Int
  /-- The month, from 1. -/
  month : Nat
  /-- The day of the month, from 1. -/
  day : Nat
  deriving DecidableEq, Repr

/-- The date of a day counted from 1970-01-01.  Years are counted from March, in eras of 400 years,
so that the leap day is the last day of its year. -/
def Date.ofDays (days : Int) : Date :=
  let z := days + 719468
  let era := z / 146097
  let doe := (z - era * 146097).toNat
  let yoe := (doe - doe / 1460 + doe / 36524 - doe / 146096) / 365
  let doy := doe - (365 * yoe + yoe / 4 - yoe / 100)
  let mp := (5 * doy + 2) / 153
  let month := if mp < 10 then mp + 3 else mp - 9
  { year := (yoe : Int) + era * 400 + (if month ≤ 2 then 1 else 0)
    month := month
    day := doy - (153 * mp + 2) / 5 + 1 }

/-- A number with at least `width` digits. -/
def padded (width n : Nat) : String :=
  let ds := toString n
  String.ofList (List.replicate (width - ds.length) '0') ++ ds

/-- A year of at least four digits, with a sign outside 0 to 9999. -/
def yearText (y : Int) : String :=
  if 0 ≤ y ∧ y ≤ 9999 then padded 4 y.toNat
  else (if y < 0 then "-" else "+") ++ padded 4 y.natAbs

/-- The fraction of a second with 0, 3, 6 or 9 digits, the fewest that lose nothing. -/
def fractionText (nanos : Nat) : String :=
  if nanos = 0 then ""
  else if nanos % 1000000 = 0 then "." ++ padded 3 (nanos / 1000000)
  else if nanos % 1000 = 0 then "." ++ padded 6 (nanos / 1000)
  else "." ++ padded 9 nanos

/-- The instant in the form of RFC 3339. -/
def text (t : Instant) : String :=
  let date := Date.ofDays (t.second / 86400)
  let ofDay := (t.second % 86400).toNat
  -- a leap second is the sixtieth of its minute
  let ofMinute := ofDay % 60 + t.nanos / nanosPerSecond
  yearText date.year ++ "-" ++ padded 2 date.month ++ "-" ++ padded 2 date.day ++ "T" ++
    padded 2 (ofDay / 3600) ++ ":" ++ padded 2 (ofDay / 60 % 60) ++ ":" ++ padded 2 ofMinute ++
    fractionText (t.nanos % nanosPerSecond) ++ "+00:00"

end Instant

end EventLedger
