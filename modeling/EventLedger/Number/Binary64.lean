/-!
# Binary floating-point numbers

Finite numbers with 53 significant bits, kept as a sign, a whole mantissa and a power of two, so
that rounding, comparing and writing them is exact arithmetic on whole numbers.

## Main definitions

* `Binary64` — the numbers `± mantissa * 2 ^ exponent`.
* `Binary64.ofRatio?` — a quotient rounded to the nearest number, ties to the even mantissa.
* `Binary64.ofDecimal?` — a decimal, read as its rounded significand scaled by a rounded power of
  ten.
* `Binary64.scaled` — the value in units of the least positive number.
-/

namespace EventLedger

/-- A finite number `± mantissa * 2 ^ exponent`.  Rounding keeps the mantissa below `2 ^ 53` and the
exponent between `-1074` and `971`, with the mantissa at least `2 ^ 52` above the least exponent. -/
structure Binary64 where
  /-- Whether the number carries a minus sign; zero may. -/
  negative : Bool
  /-- The significant bits. -/
  mantissa : Nat
  /-- The power of two that scales them. -/
  exponent : Int
  deriving DecidableEq, Repr, Inhabited

namespace Binary64

/-- The least exponent. -/
def leastExponent : Int := -1074

/-- The greatest exponent. -/
def greatestExponent : Int := 971

/-- Zero with the given sign. -/
def zero (negative : Bool) : Binary64 := ⟨negative, 0, leastExponent⟩

/-- The quotient rounded to the nearest whole number, a half to the even neighbour. -/
def roundDiv (num den : Nat) : Nat :=
  let q := num / den
  let r := num % den
  if 2 * r < den then q else if den < 2 * r then q + 1 else q + q % 2

/-- Numerator and denominator of `num / den` divided by `2 ^ e`. -/
def unscale (num den : Nat) (e : Int) : Nat × Nat :=
  if 0 ≤ e then (num, den <<< e.toNat) else (num <<< (-e).toNat, den)

/-- The exponent that leaves 53 bits before the point of a positive quotient. -/
def exponentOf (num den : Nat) : Int :=
  let e := (Nat.log2 num : Int) - (Nat.log2 den : Int) - 52
  let q := unscale num den e
  if q.1 / q.2 < 1 <<< 52 then e - 1 else e

/-- The number nearest to `num / den`, ties to the even mantissa; none if it is too large. -/
def ofRatio? (negative : Bool) (num den : Nat) : Option Binary64 :=
  if num = 0 then some (zero negative) else
    let e := max (exponentOf num den) leastExponent
    let q := unscale num den e
    let m := roundDiv q.1 q.2
    let r : Nat × Int := if m = 1 <<< 53 then (1 <<< 52, e + 1) else (m, e)
    if greatestExponent < r.2 then none else some ⟨negative, r.1, r.2⟩

/-- Numerator and denominator of the absolute value. -/
def ratio (x : Binary64) : Nat × Nat :=
  if 0 ≤ x.exponent then (x.mantissa <<< x.exponent.toNat, 1)
  else (x.mantissa, 1 <<< (-x.exponent).toNat)

/-- The number nearest to a power of ten with an exponent up to 308. -/
def powerOfTen (k : Nat) : Binary64 := (ofRatio? false (Nat.pow 10 k) 1).getD (zero false)

/-- The number scaled by `10 ^ k`, up to 308 places in one step. -/
def scaleByTen? (x : Binary64) (k : Int) : Option Binary64 :=
  let v := x.ratio
  let p := (powerOfTen k.natAbs).ratio
  if 0 ≤ k then ofRatio? x.negative (v.1 * p.1) (v.2 * p.2)
  else ofRatio? x.negative (v.1 * p.2) (v.2 * p.1)

/-- Scaling down beyond 308 places, in steps of 308; `steps` bounds their number. -/
def scaleDown (x : Binary64) (k : Nat) : Nat → Option Binary64
  | 0 => some (zero x.negative)
  | steps + 1 =>
    if k ≤ 308 then x.scaleByTen? (-(k : Int))
    else if x.mantissa = 0 then some x
    else (x.scaleByTen? (-308)).bind fun y => scaleDown y (k - 308) steps

/-- The decimal `± significand * 10 ^ k`: the significand is rounded, then scaled by the rounded
power of ten and rounded again.  None if the result is too large. -/
def ofDecimal? (negative : Bool) (significand : Nat) (k : Int) : Option Binary64 :=
  (ofRatio? negative significand 1).bind fun x =>
    if x.mantissa = 0 then some x
    else if 308 < k then none
    else if 0 ≤ k then x.scaleByTen? k
    else scaleDown x k.natAbs 4

/-- The value in units of `2 ^ -1074`, the least positive number. -/
def scaled (x : Binary64) : Int :=
  let m : Int := (x.mantissa <<< (x.exponent - leastExponent).toNat : Nat)
  if x.negative then -m else m

/-- Whether two numbers have one value; the two zeros do. -/
def same (x y : Binary64) : Bool := x.scaled == y.scaled

/-- Whether `x` is below `y`. -/
def below (x y : Binary64) : Bool := x.scaled < y.scaled

/-- The number one. -/
def one : Binary64 := ⟨false, 1 <<< 52, -52⟩

/-- The nearest number between zero and one. -/
def clampToUnit (x : Binary64) : Binary64 :=
  if x.below (zero false) then zero false else if one.below x then one else x

end Binary64

end EventLedger
