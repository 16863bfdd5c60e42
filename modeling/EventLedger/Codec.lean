import EventLedger.Aggregate
import EventLedger.Json.Decode

/-!
# Codecs

The stored forms of events and states.

## Main definitions

* `Codec` — writing and reading events and states; each may fail with a reason.
* `Codec.json` — the JSON forms, where an event is read only under the type that it was stored as.
-/

namespace EventLedger

/-- The stored forms of events `ε` and states `σ`. -/
structure Codec (σ ε : Type) where
  /-- The payload of an event. -/
  writeEvent : ε → Except String Json
  /-- The event of a payload that was stored under a type. -/
  readEvent : Json → EventType → Except String ε
  /-- The stored form of a state. -/
  writeState : σ → Except String Json
  /-- The state of a stored form. -/
  readState : Json → Except String σ

namespace Codec

variable {σ ε : Type}

/-- An event under the type that it was stored as. -/
def checkType (typeOf : ε → EventType) (stored : EventType) (e : ε) : Except String ε :=
  if typeOf e = stored then .ok e
  else .error s!"payload decodes to {(typeOf e).text}, but was stored as {stored.text}"

/-- The JSON forms of events and states. -/
def json (typeOf : ε → EventType) (encodeEvent : ε → Json)
    (decodeEvent : Json → Except DecodeError ε) (encodeState : σ → Json)
    (decodeState : Json → Except DecodeError σ) : Codec σ ε where
  writeEvent e := .ok (encodeEvent e)
  readEvent j stored :=
    match decodeEvent j with
    | .ok e => checkType typeOf stored e
    | .error cause => .error cause.message
  writeState s := .ok (encodeState s)
  readState j :=
    match decodeState j with
    | .ok s => .ok s
    | .error cause => .error cause.message

end Codec

end EventLedger
