import EventLedger.Orders.Store

/-!
# Codecs, upgraders and providers for rehearsals

Codecs that refuse chosen values, upgraders of order events that lose events or never come to an
end, and a metadata provider that tells what it was shown.

## Main definitions

* `fragile` — a codec that refuses to write values whose compact text contains a given text.
* `endless`, `lossy` — upgraders that do not keep to what an upgrader is for.
* `echo` — a metadata provider.
-/

namespace EventLedger.Simulation

/-- Whether a text contains another. -/
def contains (s part : String) : Bool := part = "" || 1 < (s.splitOn part).length

/-- The compact text that a writer produces, refused with `reason` if it contains `part`. -/
def refuse {α : Type} (write : α → Except String Json) (part : Option String)
    (reason : String) (a : α) :
    Except String Json := do
  let j ← write a
  if part.any fun p => contains j.render p then throw reason else pure j

/-- The codec that refuses to write events and states whose compact text contains a given text. -/
def fragile {σ ε : Type} (codec : Codec σ ε) (event state : Option String) : Codec σ ε :=
  { codec with
    writeEvent := refuse codec.writeEvent event "scripted event failure"
    writeState := refuse codec.writeState state "scripted state failure" }

/-- Turns removals into legacy additions and these into removals. -/
def turnAround : OrderEvent → List OrderEvent
  | .itemRemoved sku => [.itemAddedV1 sku]
  | .itemAddedV1 item => [.itemRemoved item]
  | e => [e]

/-- Upgraders that never come to an end, and declare no outputs. -/
def endless : List (Upgrader OrderEvent) :=
  [⟨OrderEvent.itemRemovedType, [], turnAround⟩, ⟨OrderEvent.itemAddedV1Type, [], turnAround⟩]

/-- Drops additions of several items, and puts an addition in the place of a submission. -/
def discard : OrderEvent → List OrderEvent
  | .bulkItemsAdded _ => []
  | .orderSubmitted => [.itemAdded "was-submitted" 7]
  | e => [e]

/-- Upgraders that lose events. -/
def lossy : List (Upgrader OrderEvent) :=
  [⟨OrderEvent.bulkItemsAddedType, [], discard⟩, ⟨OrderEvent.orderSubmittedType, [], discard⟩]

/-- A provider that tells what it was shown. -/
def echo : MetadataProvider :=
  .rule fun c =>
    [("echo.aggregate", c.key.name ++ "/" ++ c.key.id.value), ("echo.event", c.event.text),
      ("echo.payload", c.payload.render), ("echo.visible", ",".intercalate c.metadata.keys)]

end EventLedger.Simulation
