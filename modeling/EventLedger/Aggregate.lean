import EventLedger.Error

/-!
# Aggregates

An aggregate is a state that only its own events change.  Each event type has at most one handler;
an event without a handler is a failure, since passing it over would corrupt the state.

## Main definitions

* `Aggregate` — a kind of aggregate, with `Aggregate.apply` and `Aggregate.replay`.
* `Root` — one aggregate during a unit of work, with `Root.emit`.
-/

namespace EventLedger

/-- A kind of aggregate with states `σ` and events `ε`. -/
structure Aggregate (σ ε : Type) where
  /-- The name of the kind. -/
  name : String
  /-- The state of a new aggregate. -/
  initial : σ
  /-- The type of an event. -/
  typeOf : ε → EventType
  /-- The handler of the events of a type. -/
  handler? : EventType → Option (σ → ε → σ)

namespace Aggregate

variable {σ ε : Type}

/-- Whether events of the type have a handler. -/
def handles (a : Aggregate σ ε) (t : EventType) : Bool := (a.handler? t).isSome

/-- The state after an event. -/
def apply (a : Aggregate σ ε) (s : σ) (e : ε) : Except Error σ :=
  match a.handler? (a.typeOf e) with
  | some handler => .ok (handler s e)
  | none => .error (.missingHandler a.name (a.typeOf e))

/-- The state after events, in order. -/
def replay (a : Aggregate σ ε) (s : σ) : List ε → Except Error σ
  | [] => .ok s
  | e :: rest =>
    match a.apply s e with
    | .ok s' => a.replay s' rest
    | .error err => .error err

end Aggregate

/-- One aggregate during a unit of work. -/
structure Root (σ ε : Type) where
  /-- The identifier. -/
  id : AggregateId
  /-- The state, the uncommitted events included. -/
  state : σ
  /-- The sequence number of the last committed event, 0 if there is none. -/
  version : Nat
  /-- The events emitted in this unit of work. -/
  uncommitted : List ε

namespace Root

variable {σ ε : Type}

/-- Whether no event of the aggregate is committed. -/
def isNew (r : Root σ ε) : Bool := r.version == 0

/-- The root after an event that is to be committed. -/
def emit (a : Aggregate σ ε) (r : Root σ ε) (e : ε) : Except Error (Root σ ε) :=
  match a.apply r.state e with
  | .ok s => .ok { r with state := s, uncommitted := r.uncommitted ++ [e] }
  | .error err => .error err

end Root

end EventLedger
