import EventLedger.Json.Decode
import EventLedger.Time.Duration

/-!
# Delays between attempts

The delay before each retry, and the settings in which it is given.

## Main definitions

* `Backoff`, `Backoff.delay` — a constant delay, or one that doubles up to a greatest one.
* `BackoffSetting` — the settings in whole milliseconds, with `BackoffSetting.decode`.
-/

namespace EventLedger

/-- A schedule of delays. -/
inductive Backoff
  /-- The same delay before every retry. -/
  | fixed (delay : Duration)
  /-- `initial`, doubled for each retry after the first, at most `longest`. -/
  | exponential (initial longest : Duration)
  deriving DecidableEq, Repr

namespace Backoff

/-- Doublings after this many leave the factor as it is. -/
def greatestDoublings : Nat := 31

/-- The delay before retry number `attempt`, counted from 1. -/
def delay (b : Backoff) (attempt : Nat) : Duration :=
  match b with
  | .fixed d => d
  | .exponential initial longest =>
    (initial.scale (1 <<< min (attempt - 1) greatestDoublings)).shorter longest

/-- From 10 milliseconds, doubled up to 500. -/
def standard : Backoff := .exponential (.ofMillis 10) (.ofMillis 500)

end Backoff

/-- A schedule of delays as settings give it, in milliseconds. -/
inductive BackoffSetting
  | fixed (delayMs : Nat)
  | exponential (initialMs maxMs : Nat)
  deriving DecidableEq, Repr

namespace BackoffSetting

/-- The schedule that the settings describe. -/
def backoff : BackoffSetting → Backoff
  | .fixed d => .fixed (.ofMillis d)
  | .exponential i m => .exponential (.ofMillis i) (.ofMillis m)

/-- The kinds of schedule by name. -/
inductive Kind
  | fixed
  | exponential

/-- The kind that a value names. -/
def readKind : Json → Except DecodeError Kind
  | .str "fixed" => .ok .fixed
  | .str "exponential" => .ok .exponential
  | .str s => .error (.unknownVariant s ["fixed", "exponential"])
  | j => .error (j.unexpected "variant identifier")

/-- The fields of each kind. -/
def shapeOf : Kind → RecordShape
  | .fixed =>
    { name := "struct variant BackoffConfig::Fixed"
      fields := [("delay_ms", Json.check (Json.readWord Json.word64))] }
  | .exponential =>
    { name := "struct variant BackoffConfig::Exponential"
      fields := [("initial_ms", Json.check (Json.readWord Json.word64)),
        ("max_ms", Json.check (Json.readWord Json.word64))] }

/-- The setting with the given fields. -/
def ofFields (fields : List (String × Json)) : Kind → Except DecodeError BackoffSetting
  | .fixed => do
    pure (.fixed (← (Json.fieldOf fields "delay_ms").readWord Json.word64))
  | .exponential => do
    pure (.exponential (← (Json.fieldOf fields "initial_ms").readWord Json.word64)
      (← (Json.fieldOf fields "max_ms").readWord Json.word64))

/-- The failure of an array with more items after the kind than fields. -/
def tooManyItems (kind : Kind) (total : Nat) : DecodeError :=
  .invalidLength total (RecordShape.countText (shapeOf kind).fields.length ++ " in sequence")

/-- The setting that a value describes: an object with the field `kind`, or an array that starts
with the kind. -/
def decode : Json → Except DecodeError BackoffSetting
  | .obj fields =>
    match fields.lookup "kind" with
    | none => .error (.missingField "kind")
    | some k => do
      let kind ← readKind k
      ofFields (← (shapeOf kind).readFields fields) kind
  | .arr [] => .error (.missingField "kind")
  | .arr (k :: items) => do
    let kind ← readKind k
    let shape := shapeOf kind
    ofFields (← shape.pairItems (tooManyItems kind) items.length 0 shape.fields items) kind
  | j => .error (j.unexpected "internally tagged enum BackoffConfig")

end BackoffSetting

end EventLedger
