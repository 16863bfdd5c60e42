import EventLedger.Number.Binary64

/-!
# The shortest decimal of a binary number

The fewest significant digits that read back as the number, and of those the nearest to it, found in
exact arithmetic on whole numbers.  On each decimal grid, from one digit to seventeen, the two
neighbours of the value are tested against the interval of values that round to it.

## Main definitions

* `Decimal` — a whole significand and a power of ten.
* `Binary64.interval` — the values that round to the number, over one denominator.
* `Binary64.shortest` — the digits.
-/

namespace EventLedger

/-- The value `digits * 10 ^ exponent`. -/
structure Decimal where
  /-- The significand. -/
  digits : Nat
  /-- The power of ten. -/
  exponent : Int
  deriving DecidableEq, Repr, Inhabited

/-- The same value without trailing zeros in the significand; `steps` bounds their number. -/
def Decimal.strip (d : Decimal) : Nat → Decimal
  | 0 => d
  | steps + 1 =>
    if d.digits ≠ 0 ∧ d.digits % 10 = 0 then
      Decimal.strip ⟨d.digits / 10, d.exponent + 1⟩ steps
    else d

namespace Binary64

/-- A value with the interval of values that round to it, over one denominator. -/
structure Interval where
  /-- Numerator of the lower end. -/
  low : Nat
  /-- Numerator of the value. -/
  mid : Nat
  /-- Numerator of the upper end. -/
  high : Nat
  /-- The denominator. -/
  den : Nat
  /-- Whether the ends round to the value too. -/
  closed : Bool

/-- The values that round to the absolute value of `x`.  The interval is shorter below a power of
two, and its ends belong to it if the mantissa is even. -/
def interval (x : Binary64) : Interval :=
  let e := x.exponent - 2
  let up : Nat → Nat := fun n => if 0 ≤ e then n <<< e.toNat else n
  let below := if x.mantissa = 1 <<< 52 ∧ leastExponent < x.exponent then 1 else 2
  { low := up (4 * x.mantissa - below)
    mid := up (4 * x.mantissa)
    high := up (4 * x.mantissa + 2)
    den := if 0 ≤ e then 1 else 1 <<< (-e).toNat
    closed := x.mantissa % 2 == 0 }

/-- The least `p` with `num / den < 10 ^ p`, searched from `p` in the given number of steps. -/
def pointAbove (num den : Nat) : Int → Nat → Int
  | p, 0 => p
  | p, steps + 1 =>
    let fits := if 0 ≤ p then num < den * Nat.pow 10 p.toNat else num * Nat.pow 10 (-p).toNat < den
    if fits then p else pointAbove num den (p + 1) steps

/-- Whether the grid point `c * 10 ^ k` rounds to the number. -/
def Interval.holds (i : Interval) (c : Nat) (k : Int) : Bool :=
  let v := if 0 ≤ k then c * Nat.pow 10 k.toNat * i.den else c * i.den
  let s := if 0 ≤ k then 1 else Nat.pow 10 (-k).toNat
  if i.closed then i.low * s ≤ v && v ≤ i.high * s else i.low * s < v && v < i.high * s

/-- The better of the value's two neighbours on the grid of multiples of `10 ^ k`, if one rounds to
the number; of two equally near ones the even one. -/
def Interval.onGrid? (i : Interval) (k : Int) : Option Decimal :=
  let num := if 0 ≤ k then i.mid else i.mid * Nat.pow 10 (-k).toNat
  let den := if 0 ≤ k then i.den * Nat.pow 10 k.toNat else i.den
  let q := num / den
  let nearer := roundDiv num den
  let other := if nearer = q then q + 1 else q
  if i.holds nearer k then some ⟨nearer, k⟩
  else if i.holds other k then some ⟨other, k⟩ else none

/-- The first grid with a point that rounds to the number, from the coarsest on. -/
def Interval.search (i : Interval) (point : Int) : Nat → Nat → Option Decimal
  | _, 0 => none
  | n, steps + 1 => (i.onGrid? (point - n)).orElse fun _ => i.search point (n + 1) steps

/-- The shortest decimal that reads back as the absolute value of `x`. -/
def shortest (x : Binary64) : Decimal :=
  if x.mantissa = 0 then ⟨0, 0⟩ else
    let i := x.interval
    let start : Int := ((Nat.log2 i.mid : Int) - (Nat.log2 i.den : Int)) * 3 / 10 - 2
    let point := pointAbove i.mid i.den start 40
    ((i.search point 1 17).getD ⟨0, 0⟩).strip 20

end Binary64

end EventLedger
