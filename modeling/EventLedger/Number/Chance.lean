import EventLedger.Number.Binary64

/-!
# Chance

A source of numbers between zero and one.  Each state determines the next number and the next state,
so a run that starts from a known state can be repeated.

## Main definitions

* `Chance`, `Chance.next` — a state, and the next number with the next state.
-/

namespace EventLedger

/-- The state of a source of numbers. -/
structure Chance where
  /-- The state. -/
  state : UInt64
  deriving DecidableEq, Repr

namespace Chance

/-- The step from one state to the next, an odd number. -/
def stride : UInt64 := 0x9E3779B97F4A7C15

/-- The bits of a state, mixed. -/
def mix (x : UInt64) : UInt64 :=
  let y := (x ^^^ (x >>> 30)) * 0xBF58476D1CE4E5B9
  let z := (y ^^^ (y >>> 27)) * 0x94D049BB133111EB
  z ^^^ (z >>> 31)

/-- The next number, at least zero and below one, and the next state. -/
def next (c : Chance) : Binary64 × Chance :=
  let state := c.state + stride
  let bits := (mix state) >>> 11
  ((Binary64.ofRatio? false bits.toNat 9007199254740992).getD (.zero false), ⟨state⟩)

/-- The next `n` numbers. -/
def take : Nat → Chance → List Binary64
  | 0, _ => []
  | n + 1, c => c.next.1 :: take n c.next.2

end Chance

end EventLedger
