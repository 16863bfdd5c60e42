import EventLedger.Codec
import EventLedger.Orders.Event

/-!
# Orders

An order has lines, each an item and its number of units, and is open until it is submitted.

## Main definitions

* `Order` — an order; `Order.addItem`, `Order.removeItem`, `Order.submit` handle its events.
* `Order.aggregate` — the kind of aggregate; the legacy events have no handler.
* `Order.encode`, `Order.decode`, `Order.codec` — the JSON form.
-/

namespace EventLedger

/-- A line of an order. -/
structure OrderLine where
  /-- The item. -/
  sku : String
  /-- The number of units. -/
  quantity : UInt32
  deriving DecidableEq, Repr

/-- The state of an order. -/
structure Order where
  /-- The lines in the order in which they were first added. -/
  lines : List OrderLine := []
  /-- Whether the order is closed for changes. -/
  submitted : Bool := false
  deriving DecidableEq, Repr, Inhabited

namespace Order

/-- The greatest number of units. -/
def greatestQuantity : UInt32 := 4294967295

/-- The sum of two numbers of units, at most the greatest one. -/
def addQuantity (a b : UInt32) : UInt32 :=
  if greatestQuantity.toNat ≤ a.toNat + b.toNat then greatestQuantity else a + b

/-- The lines with units added to the line of an item, which is put at the end if there is none. -/
def addLine (sku : String) (quantity : UInt32) : List OrderLine → List OrderLine
  | [] => [⟨sku, quantity⟩]
  | l :: rest =>
    if l.sku = sku then ⟨sku, addQuantity l.quantity quantity⟩ :: rest
    else l :: addLine sku quantity rest

/-- The order after units of an item were added. -/
def addItem (o : Order) : OrderEvent → Order
  | .itemAdded sku quantity => { o with lines := addLine sku quantity o.lines }
  | _ => o

/-- The order after the line of an item was removed. -/
def removeItem (o : Order) : OrderEvent → Order
  | .itemRemoved sku => { o with lines := o.lines.filter fun l => l.sku != sku }
  | _ => o

/-- The order after it was closed. -/
def submit (o : Order) (_ : OrderEvent) : Order := { o with submitted := true }

/-- The items in the order of their lines. -/
def skus (o : Order) : List String := o.lines.map (·.sku)

/-- Orders as a kind of aggregate. -/
def aggregate : Aggregate Order OrderEvent where
  name := "order"
  initial := {}
  typeOf := OrderEvent.type
  handler? t :=
    if t = OrderEvent.itemAddedType then some addItem
    else if t = OrderEvent.itemRemovedType then some removeItem
    else if t = OrderEvent.orderSubmittedType then some submit
    else none

/-- The JSON form of a line. -/
def encodeLine (l : OrderLine) : Json :=
  .object [("sku", .str l.sku), ("quantity", .nat l.quantity.toNat)]

/-- The JSON form of an order. -/
def encode (o : Order) : Json :=
  .object [("lines", .arr (o.lines.map encodeLine)), ("submitted", .bool o.submitted)]

/-- The fields of a line. -/
def lineShape : RecordShape :=
  { name := "struct OrderLine"
    fields := [("sku", Json.check Json.readText),
      ("quantity", Json.check OrderEvent.readQuantity)] }

/-- The line that a JSON value holds. -/
def decodeLine (j : Json) : Except DecodeError OrderLine := do
  let fs ← lineShape.read j
  pure ⟨← (Json.fieldOf fs "sku").readText, ← OrderEvent.readQuantity (Json.fieldOf fs "quantity")⟩

/-- The fields of an order. -/
def shape : RecordShape :=
  { name := "struct Order"
    fields := [("lines", Json.check (Json.readList decodeLine)),
      ("submitted", Json.check Json.readBool)] }

/-- The order that a JSON value holds. -/
def decode (j : Json) : Except DecodeError Order := do
  let fs ← shape.read j
  pure ⟨← (Json.fieldOf fs "lines").readList decodeLine, ← (Json.fieldOf fs "submitted").readBool⟩

/-- The stored forms of orders and their events. -/
def codec : Codec Order OrderEvent :=
  .json OrderEvent.type OrderEvent.encode OrderEvent.decode encode decode

end Order

end EventLedger
