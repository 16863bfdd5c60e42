import EventLedger.Orders.Order

/-!
# Changing an order

The rules by which an order accepts a change, and the events that accepted changes emit.

## Main definitions

* `OrderRoot` — an order during a unit of work.
* `OrderRoot.add`, `OrderRoot.remove`, `OrderRoot.submit` — the changes that an order accepts.
-/

namespace EventLedger

/-- An order during a unit of work. -/
abbrev OrderRoot := Root Order OrderEvent

namespace OrderRoot

/-- Refuses a change of an order that is submitted. -/
def ensureOpen (r : OrderRoot) : Except Error Unit :=
  if r.state.submitted then
    .error (.validation s!"order {r.id.value} has already been submitted")
  else .ok ()

/-- Records an event. -/
def record (r : OrderRoot) (e : OrderEvent) : Except Error OrderRoot :=
  Root.emit Order.aggregate r e

/-- Adds units of an item. -/
def add (r : OrderRoot) (sku : String) (quantity : UInt32) : Except Error OrderRoot := do
  r.ensureOpen
  if quantity = 0 then throw (.validation "quantity must be positive")
  r.record (.itemAdded sku quantity)

/-- Removes the line of an item. -/
def remove (r : OrderRoot) (sku : String) : Except Error OrderRoot := do
  r.ensureOpen
  if !(r.state.lines.any fun l => l.sku == sku) then
    throw (.validation s!"sku {sku} not found in order {r.id.value}")
  r.record (.itemRemoved sku)

/-- Submits the order. -/
def submit (r : OrderRoot) : Except Error OrderRoot := do
  r.ensureOpen
  if r.state.lines.isEmpty then throw (.validation s!"order {r.id.value} has no lines")
  r.record .orderSubmitted

end OrderRoot

end EventLedger
