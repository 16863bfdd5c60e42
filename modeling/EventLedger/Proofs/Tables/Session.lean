import EventLedger.Proofs.Tables.Retry
import EventLedger.Proofs.Tables.Server

/-!
# Sessions

A client's session on a database server.  In a session that is not calm any statement may fail in any
way, and a `COMMIT` that fails may have been carried out; and between two statements other clients
may commit rows for places that are free.  Nothing is deleted by others.

## Main definitions

* `Session` — the server, and who made which rows visible.
* `Session.Moves`, `Session.Serves`, `Session.Goes` — what the others do between two requests, how a
  request is answered, and both in a row.

## Main results

* `Session.exists_goes` — every request is answered.
-/

namespace EventLedger

/-- A client's session on a server. -/
structure Session where
  /-- The server. -/
  server : Server
  /-- The rows that the session has made visible, each group by one `COMMIT`. -/
  own : List (List EventRow) := []
  /-- All other rows that are or were visible. -/
  foreign : List EventRow := server.events

namespace Session

/-- A session that begins on a server. -/
def start (s : Server) : Session := { server := s }

/-- The rows of the session's open transaction. -/
def pending (w : Session) : List EventRow := (w.server.transaction 0).rows

/-- The rows that a statement of the session makes visible. -/
def shown (w : Session) : Statement → List (List EventRow)
  | .commit => [w.pending]
  | _ => []

/-- The session after a statement that the server has carried out. -/
def after (w : Session) (q : Statement) (s : Server) : Session :=
  { w with server := s, own := w.own ++ w.shown q }

/-- What others may do between two statements: make rows visible for places that are free, and draw
global numbers.  In a calm session they rest. -/
structure Moves (calm : Prop) (w w' : Session) : Prop where
  rows : ∃ new, w'.server.events = w.server.events ++ new ∧ w'.foreign = w.foreign ++ new ∧
    Server.Fits (w.server.events ++ w.pending) (new.map (·.toEventDraft))
  own : w'.own = w.own
  pending : w'.pending = w.pending
  next : w.server.nextGlobal ≤ w'.server.nextGlobal
  rests : calm → w' = w

/-- How a statement is answered: the server carries it out; or, unless the session is calm, it fails
without a visible effect; or it is a `COMMIT` that fails although it was carried out. -/
inductive Answers (calm : Prop) (w : Session) (q : Statement) (a : q.Answer) (w' : Session) : Prop
  | executed {s' : Server} (h : w.server.Executes 0 q a s') (hw : w' = w.after q s')
  | failed {f : DatabaseFailure} {s' : Server} (hcalm : ¬calm) (ha : a = .error f)
      (hevents : s'.events = w.server.events) (hnext : w.server.nextGlobal ≤ s'.nextGlobal)
      (hw : w' = { w with server := s' })
  | lost {f : DatabaseFailure} (hcalm : ¬calm) (ha : a = .error f) (hq : q = .commit)
      (hw : w' = w.after .commit (w.server.commit 0))

/-- How a request of a call to the server is answered.  In a calm session the caller does not cancel.
-/
def Serves (calm : Prop) (w : Session) :
    (q : RetryRequest statementInterface) → q.Answer → Session → Prop
  | .inner q, a, w' => w.Answers calm q a w'
  | .isCancelled, cancelled, w' => (calm → cancelled = false) ∧ w' = w
  | .pause _, cancelled, w' => (calm → cancelled = false) ∧ w' = w
  | .sleep _, _, w' => w' = w
  | .decided _ _, _, w' => w' = w

/-- A request is answered after the others have done as they like; a notice takes no time. -/
def Goes (calm : Prop) (w : Session) :
    (q : RetryRequest statementInterface) → q.Answer → Session → Prop
  | .decided _ _, _, w' => w' = w
  | q, a, w' => ∃ w₁, Moves calm w w₁ ∧ w₁.Serves calm q a w'

variable {calm : Prop}

/-- The others may rest. -/
theorem Moves.refl (w : Session) : Moves calm w w where
  rows := by
    refine ⟨[], ?_, ?_, ?_, .nil⟩
    · rw [List.append_nil]
    · rw [List.append_nil]
    · intro d hd
      cases hd
  own := rfl
  pending := rfl
  next := Int.le_refl _
  rests := fun _ => rfl

/-- The retry loop's own requests leave the rest to the others. -/
theorem Goes.moves {w w' : Session} {q : RetryRequest statementInterface} {a : q.Answer}
    (hq : ¬q.IsInner) (h : Goes calm w q a w') : Moves calm w w' := by
  cases q with
  | inner q => exact absurd trivial hq
  | isCancelled =>
    obtain ⟨w₁, hmoves, -, rfl⟩ := h
    exact hmoves
  | pause d =>
    obtain ⟨w₁, hmoves, -, rfl⟩ := h
    exact hmoves
  | sleep d =>
    obtain ⟨w₁, hmoves, rfl⟩ := h
    exact hmoves
  | decided n d =>
    obtain rfl := h
    exact .refl w'

/-- Every request of a call is answered. -/
theorem exists_goes (calm : Prop) (w : Session) (q : RetryRequest statementInterface) :
    ∃ a w', Goes calm w q a w' := by
  cases q with
  | inner q =>
    obtain ⟨a, s', h⟩ := w.server.exists_executes 0 q
    exact ⟨a, w.after q s', w, .refl w, .executed h rfl⟩
  | isCancelled => exact ⟨false, w, w, .refl w, fun _ => rfl, rfl⟩
  | pause d => exact ⟨false, w, w, .refl w, fun _ => rfl, rfl⟩
  | sleep d => exact ⟨(), w, w, .refl w, rfl⟩
  | decided n d => exact ⟨(), w, rfl⟩

end Session

end EventLedger
