import EventLedger.Admin.Command

/-!
# Running maintenance commands

The output of a maintenance command as the list of its lines, and the command run against any
storage.

## Main definitions

* `Output`, `OutputPart` — the lines, and a part of the work that the output may fail at.
* `AdminCall.runOver` — a command run to its end.
-/

namespace EventLedger

/-- A part of an output's work. -/
inductive OutputPart
  | write
  | endLine
  | flush
  deriving DecidableEq, Repr

/-- What has been handed to the writer.  A writer with a buffer may hold some of it back until it is
flushed; this one has none, so that flushing it can fail but adds nothing. -/
structure Output where
  /-- The complete lines with their line ends, the last one first. -/
  lines : List String := []
  /-- The text after the last line end. -/
  pending : String := ""
  /-- What the output fails at. -/
  broken : Option OutputPart := none
  deriving Inhabited

namespace Output

/-- The reason that a broken output gives. -/
def brokenReason : String := "sink is broken"

/-- What becomes of a part of the work. -/
def attempt (o : Output) (part : OutputPart) (after : Output) : Except String Unit × Output :=
  if o.broken = some part then (.error brokenReason, o) else (.ok (), after)

/-- Writes a text that has no line end. -/
def write (o : Output) (text : String) : Except String Unit × Output :=
  o.attempt .write { o with pending := o.pending ++ text }

/-- Ends the line. -/
def endLine (o : Output) : Except String Unit × Output :=
  o.attempt .endLine { o with lines := (o.pending ++ "\n") :: o.lines, pending := "" }

/-- Passes on what a buffer holds back, which is nothing here. -/
def flush (o : Output) : Except String Unit × Output := o.attempt .flush o

end Output

namespace AdminCall

variable {σ : Type}

/-- The answer to a request of a command, from a storage that is told whether the caller has
cancelled. -/
def answer (serve : (q : StorageRequest) → Bool → σ → q.Answer × σ) (cancelled : Bool) :
    (q : AdminRequest) → σ × Output → q.Answer × (σ × Output)
  | .storage q, (s, o) =>
    let r := serve q cancelled s
    (r.1, r.2, o)
  | .isCancelled, w => (cancelled, w)
  | .write text, (s, o) =>
    let r := o.write text
    (r.1, s, r.2)
  | .endLine, (s, o) =>
    let r := o.endLine
    (r.1, s, r.2)
  | .flush, (s, o) =>
    let r := o.flush
    (r.1, s, r.2)

/-- A command run to its end. -/
def runOver {α : Type} (serve : (q : StorageRequest) → Bool → σ → q.Answer × σ) (cancelled : Bool)
    (call : AdminCall α) (s : σ) (o : Output) : Except AdminError α × σ × Output :=
  Call.runState (I := adminInterface) (answer serve cancelled) call (s, o)

end AdminCall

end EventLedger
