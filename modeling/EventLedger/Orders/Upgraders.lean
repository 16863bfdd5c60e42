import EventLedger.Orders.Event
import EventLedger.Upgrade

/-!
# Upgrading legacy order events

Orders once recorded one unit of an item, or several items at once.  Both become additions of units.

## Main definitions

* `OrderEvent.unitAdded`, `OrderEvent.itemsSplit` — the two upgraders.
* `OrderEvent.upgraders` — the chain of both.
-/

namespace EventLedger.OrderEvent

/-- One unit of an item, in the current form. -/
def toUnitAdded : OrderEvent → List OrderEvent
  | .itemAddedV1 item => [.itemAdded item 1]
  | e => [e]

/-- One legacy addition for each item added at once. -/
def toSingleItems : OrderEvent → List OrderEvent
  | .bulkItemsAdded items => items.map .itemAddedV1
  | e => [e]

/-- The upgrader of legacy additions. -/
def unitAdded : Upgrader OrderEvent := ⟨itemAddedV1Type, [itemAddedType], toUnitAdded⟩

/-- The upgrader of several items added at once. -/
def itemsSplit : Upgrader OrderEvent := ⟨bulkItemsAddedType, [itemAddedV1Type], toSingleItems⟩

/-- The upgraders of order events, in the order of their registration. -/
def upgraders : Except Error (UpgraderChain OrderEvent) := do
  let chain ← UpgraderChain.register {} unitAdded
  chain.register itemsSplit

end EventLedger.OrderEvent
