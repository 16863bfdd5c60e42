import EventLedger.Number.Unsigned

/-!
# Punycode

Names of other scripts written in ASCII.  The letters before the last hyphen stand for themselves;
the digits after it, in base 36, tell which characters are inserted where, as steps of a counter
that runs over all characters and, for each of them, over all places.  Steps and the weights of
their digits are numbers of 32 bits.

## Main definitions

* `Punycode.decode?` — the code points of a name.
-/

namespace EventLedger.Punycode

/-- The value of a digit: letters from 0, numerals from 26. -/
def digit? (c : Char) : Option Nat :=
  if 'a' ≤ c ∧ c ≤ 'z' then some (c.toNat - 'a'.toNat)
  else if c.isDigit then some (26 + digitValue c)
  else none

/-- The divisions by 35 that bring a step down to 455, and what is left of it. -/
def reduce (step k : Nat) : Nat × Nat :=
  if 455 < step then reduce (step / 35) (k + 36) else (step, k)
termination_by step
decreasing_by omega

/-- The bias after a step, which makes the usual steps short: `fromStart` tells whether the counter
stood at the first place before it, and `size` is the number of characters by then. -/
def bias (step size : Nat) (fromStart : Bool) : Nat :=
  let scaled := if fromStart then step / 700 else step / 2
  let r := reduce (scaled + scaled / size) 0
  r.2 + 36 * r.1 / (r.1 + 38)

/-- From which value on a digit is not the last one of its step. -/
def threshold (position bias : Nat) : Nat := min 26 (max 1 (position - bias))

/-- How far the characters have been inserted. -/
structure Progress where
  /-- The code points so far. -/
  points : List Nat
  /-- The code point that is inserted. -/
  point : Nat := 128
  /-- The place at which it is inserted. -/
  place : Nat := 0
  /-- The bias. -/
  bias : Nat := 72
  /-- The sum of the digits of the step so far. -/
  step : Nat := 0
  /-- The weight of the next digit. -/
  weight : Nat := 1
  /-- The position of the next digit: 36 for the first of a step, then 36 more for each. -/
  position : Nat := 36

/-- The progress after a step was read to its end. -/
def Progress.insert (p : Progress) : Option Progress :=
  let size := p.points.length + 1
  let total := p.place + p.step
  let point := p.point + total / size
  let place := total % size
  if greatestWord32 < total ∨ 0x10FFFF < point ∨ (0xD800 ≤ point ∧ point ≤ 0xDFFF) then none
  else some
    { points := p.points.take place ++ point :: p.points.drop place
      point := point
      place := place + 1
      bias := Punycode.bias p.step size (p.place = 0) }

/-- Reads the digits. -/
def read : Progress → List Char → Option Progress
  | p, [] => if p.position = 36 then some p else none
  | p, c :: cs => do
    let d ← digit? c
    let t := threshold p.position p.bias
    let q := { p with step := p.step + d * p.weight }
    let weight := p.weight * (36 - t)
    if d < t then read (← q.insert) cs
    else if greatestWord32 < weight then none
    else read { q with weight := weight, position := p.position + 36 } cs

/-- The code points that a name in lower case writes. -/
def decode? (name : List Char) : Option (List Nat) :=
  let tail := (name.reverse.takeWhile (· != '-')).reverse
  -- the hyphen itself stands for nothing, but it has to part something
  let plain := name.take (name.length - tail.length - 1)
  let digits := if plain.isEmpty then name else tail
  (read { points := plain.map Char.toNat } digits).map (·.points)

end EventLedger.Punycode
