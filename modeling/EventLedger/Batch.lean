import EventLedger.Event

/-!
# Batches

The rule that a batch is numbered without gaps from its first sequence number.

## Main definitions

* `BatchFault` — how a batch breaks the rule.
* `checkNumbering` — the first fault of a list of sequence numbers.
* `validateBatch` — the check of a batch.
-/

namespace EventLedger

/-- How a batch breaks the rule of its numbering. -/
inductive BatchFault
  /-- It has no event. -/
  | empty
  /-- Its first number is 0. -/
  | startsAtZero
  /-- A number is not the next one. -/
  | gap (expected found : Nat)
  /-- The next number would exceed the greatest sequence number. -/
  | overflow
  deriving DecidableEq, Repr

/-- The failure that a fault leads to. -/
def BatchFault.error : BatchFault → Error
  | .empty => .invalidBatch "batch is empty"
  | .startsAtZero => .invalidBatch "aggregate sequence numbers start at 1"
  | .gap expected found => .invalidBatch s!"expected sequence number {expected}, got {found}"
  | .overflow => .sequenceOverflow

/-- The first fault of numbers that should run on from `expected`. -/
def checkRun (expected : Nat) : List Nat → Except BatchFault Unit
  | [] => .ok ()
  | n :: rest =>
    if greatestSequence < expected then .error .overflow
    else if n ≠ expected then .error (.gap expected n)
    else checkRun (expected + 1) rest

/-- The first fault of the numbers of a batch. -/
def checkNumbering : List Nat → Except BatchFault Unit
  | [] => .error .empty
  | 0 :: _ => .error .startsAtZero
  | first :: rest => checkRun first (first :: rest)

/-- The check of a batch before it is stored. -/
def validateBatch (events : List PendingEvent) : Except Error Unit :=
  match checkNumbering (events.map (·.sequence)) with
  | .ok () => .ok ()
  | .error fault => .error fault.error

end EventLedger
