import EventLedger.Orders.Commands
import EventLedger.Orders.Upgraders
import EventLedger.Store

/-!
# The store of orders

Orders as they are kept and changed by commands, and the view of an order that is given out.

## Main definitions

* `OrderStore`, `OrderStore.standard` — a store of orders with the upgraders of their legacy events.
* `OrderCommand`, `OrderCommand.decide` — what clients ask of an order.
* `OrderView`, `OrderView.ofRoot?`, `OrderView.encode` — what is given out of an order.
-/

namespace EventLedger

/-- A store of orders. -/
abbrev OrderStore := AggregateStore Order OrderEvent

/-- A store of orders without upgraders. -/
def OrderStore.plain : OrderStore := { aggregate := Order.aggregate, codec := Order.codec }

/-- A store of orders that upgrades their legacy events. -/
def OrderStore.standard : Except Error OrderStore := do
  pure (OrderStore.plain.withUpgraders (← OrderEvent.upgraders))

/-- What a client asks of an order. -/
inductive OrderCommand
  /-- Add units of an item. -/
  | add (sku : String) (quantity : UInt32)
  /-- Remove the line of an item. -/
  | remove (sku : String)
  /-- Submit the order. -/
  | submit
  deriving DecidableEq, Repr

/-- The decision that a command stands for. -/
def OrderCommand.decide : OrderCommand → OrderRoot → Except Error OrderRoot
  | .add sku quantity, r => r.add sku quantity
  | .remove sku, r => r.remove sku
  | .submit, r => r.submit

/-- What is shown of an order. -/
structure OrderView where
  /-- The identifier. -/
  id : AggregateId
  /-- The lines in the order in which they were first added. -/
  lines : List OrderLine
  /-- Whether the order is closed for changes. -/
  submitted : Bool
  /-- The sequence number of the last committed event. -/
  version : Nat
  deriving DecidableEq

/-- The JSON form of a view. -/
def OrderView.encode (v : OrderView) : Json :=
  .object [("order_id", .str v.id.value), ("lines", .arr (v.lines.map Order.encodeLine)),
    ("submitted", .bool v.submitted), ("version", .nat v.version)]

/-- The view of an order, if any of its events is committed. -/
def OrderView.ofRoot? (r : OrderRoot) : Option OrderView :=
  if r.isNew then none else some ⟨r.id, r.state.lines, r.state.submitted, r.version⟩

end EventLedger
