import EventLedger.Metadata

/-!
# Metadata providers

Sources of further entries for each event that is committed.

## Main definitions

* `EventContext` — what a provider is shown of the event.
* `MetadataProvider` — a fixed list of entries, a fresh identifier per event, or a rule of the
  caller.
-/

namespace EventLedger

/-- What a provider is shown of an event: only the reserved entries, never those of other providers.
-/
structure EventContext where
  /-- The stream. -/
  key : StreamKey
  /-- The type of the event. -/
  event : EventType
  /-- The payload. -/
  payload : Json
  /-- The reserved entries. -/
  metadata : Metadata

/-- A source of entries. -/
inductive MetadataProvider
  /-- A fresh identifier for each event. -/
  | eventId
  /-- Entries that depend on what is shown of the event. -/
  | rule (entries : EventContext → List (String × String))

namespace MetadataProvider

/-- The key under which `eventId` puts its identifier. -/
def eventIdKey : String := "event_id"

/-- The same entries for every event. -/
def fixed (entries : List (String × String)) : MetadataProvider := .rule fun _ => entries

/-- The entries for one event; `fresh` is the identifier to use for it. -/
def entries (p : MetadataProvider) (fresh : Uuid) (context : EventContext) :
    List (String × String) :=
  match p with
  | .eventId => [(eventIdKey, fresh.text)]
  | .rule f => f context

end MetadataProvider

end EventLedger
