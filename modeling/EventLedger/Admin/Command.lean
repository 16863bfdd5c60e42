import EventLedger.Storage
import EventLedger.Tables.Migrate

/-!
# Maintenance commands

Printing the stored events and removing an aggregate, over any storage.

## Main definitions

* `AdminError`, `AdminError.message` — why a command fails.
* `AdminRequest`, `adminInterface` — the storage, the caller's token and the output.
* `tail` — writes stored events, one per line.
* `purge` — removes the events and the snapshots of an aggregate, the events first.
-/

namespace EventLedger

/-- Why a maintenance command fails. -/
inductive AdminError
  /-- The ledger failed. -/
  | ledger (e : Error)
  /-- The output failed. -/
  | output (reason : String)
  /-- The output failed while an event was written. -/
  | encoding (reason : String)
  /-- The database cannot be reached. -/
  | database (f : DatabaseFailure)
  /-- The schema was not brought up to date. -/
  | migration (e : MigrationError)
  deriving DecidableEq

/-- The wording of a failure. -/
def AdminError.message : AdminError → String
  | .ledger e => e.message
  | .output reason => s!"output error: {reason}"
  | .encoding reason => s!"encoding error: {reason}"
  | .database f => s!"database error: {f.message}"
  | .migration e => s!"migration error: {e.message}"

/-- The name of the kind of failure. -/
def AdminError.kind : AdminError → String
  | .ledger e => e.kind
  | .output _ => "Output"
  | .encoding _ => "Encode"
  | .database _ => "Database"
  | .migration _ => "Migrate"

/-- What a maintenance command asks. -/
inductive AdminRequest
  /-- A request to the storage. -/
  | storage (q : StorageRequest)
  /-- Whether the caller has cancelled. -/
  | isCancelled
  /-- Write a text that has no line end. -/
  | write (text : String)
  /-- End the line. -/
  | endLine
  /-- Pass on what the writer has held back. -/
  | flush

/-- The answer to a request of a maintenance command. -/
def AdminRequest.Answer : AdminRequest → Type
  | .storage q => q.Answer
  | .isCancelled => Bool
  | _ => Except String Unit

/-- The interface of a maintenance command. -/
def adminInterface : Interface := ⟨AdminRequest, AdminRequest.Answer⟩

/-- A maintenance command. -/
abbrev AdminCall (α : Type) := Call adminInterface AdminError α

namespace AdminCall

/-- What a request to the storage yields. -/
def storage (q : StorageRequest) : AdminCall q.Result := do
  Call.ofExcept ((← Call.ask (I := adminInterface) (.storage q)).mapError AdminError.ledger)

/-- Whether the caller has cancelled. -/
def isCancelled : AdminCall Bool := Call.ask (I := adminInterface) .isCancelled

/-- Fails if the caller has cancelled. -/
def checkLive : AdminCall Unit := do
  if ← isCancelled then Call.fail (.ledger .cancelled)

/-- Writes an event as one line. -/
def writeLine (e : CommittedEvent) : AdminCall Unit := do
  Call.ofExcept ((← Call.ask (I := adminInterface) (.write e.line)).mapError AdminError.encoding)
  Call.ofExcept ((← Call.ask (I := adminInterface) .endLine).mapError AdminError.output)

/-- Passes on what the writer has held back.  The output of a command is what it hands to the
writer, so this adds nothing to the output, but it may fail. -/
def flush : AdminCall Unit := do
  Call.ofExcept ((← Call.ask (I := adminInterface) .flush).mapError AdminError.output)

/-- Writes events until the limit on the number of lines is reached; `written` counts the lines
before them.  Yields the new count and whether the limit stopped it. -/
def writeEvents (limit : Option Nat) (written : Nat) : List CommittedEvent → AdminCall (Nat × Bool)
  | [] => pure (written, false)
  | e :: rest => do
    if limit.any (· ≤ written) then pure (written, true)
    else
      writeLine e
      writeEvents limit (written + 1) rest

/-- Writes the events from a global number on, page by page, after `written` lines.  Pages move on
towards the greatest number, so there is a last one. -/
def tailFrom (size : Nat) (limit : Option Nat) (start written : Nat) : AdminCall Nat := do
  checkLive
  let page ← storage (.page start size)
  if page.events.isEmpty then
    flush
    pure written
  else
    let (count, full) ← writeEvents limit written page.events
    if full then
      flush
      pure count
    else if _h : start < page.next ∧ page.next ≤ greatestSequence then
      tailFrom size limit page.next count
    else Call.fail (.ledger .sequenceOverflow)
termination_by greatestSequence - start

end AdminCall

/-- Writes the events from a global number on, one per line, until there are no more or the limit is
reached.  Yields the number of lines. -/
def tail (start size : Nat) (limit : Option Nat) : AdminCall Nat :=
  AdminCall.tailFrom size limit start 0

/-- Removes the events and then the snapshots of an aggregate.  Yields the number of events.  What a
failure leaves behind, another run removes. -/
def purge (name id : String) : AdminCall Nat := do
  let id ← Call.ofExcept ((AggregateId.parse id).mapError AdminError.ledger)
  let deleted ← AdminCall.storage (.delete ⟨name, id⟩)
  AdminCall.storage (.deleteSnapshots ⟨name, id⟩)
  pure deleted

end EventLedger
