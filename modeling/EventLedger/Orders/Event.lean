import EventLedger.Json.Decode

/-!
# Order events

Every event that an order has ever produced, with the JSON form in which it is stored.

## Main definitions

* `OrderEvent`, `OrderEvent.type` — the events, legacy ones included, and their types.
* `OrderEvent.encode`, `OrderEvent.decode` — the name of the event alone, or an object with the name
  as its only key.
-/

namespace EventLedger

/-- An event of an order. -/
inductive OrderEvent
  /-- The first form of adding an item: one unit of it. -/
  | itemAddedV1 (item : String)
  /-- Several items at once, one unit each. -/
  | bulkItemsAdded (items : List String)
  /-- Units of an item were added. -/
  | itemAdded (sku : String) (quantity : UInt32)
  /-- The line of an item was removed. -/
  | itemRemoved (sku : String)
  /-- The order was closed for changes. -/
  | orderSubmitted
  deriving DecidableEq, Repr

namespace OrderEvent

/-- The type of the first form of adding an item. -/
def itemAddedV1Type : EventType := ⟨"ItemAdded", 1⟩

/-- The type of adding several items at once. -/
def bulkItemsAddedType : EventType := ⟨"BulkItemsAdded", 1⟩

/-- The type of adding units of an item. -/
def itemAddedType : EventType := ⟨"ItemAdded", 2⟩

/-- The type of removing a line. -/
def itemRemovedType : EventType := ⟨"ItemRemoved", 1⟩

/-- The type of closing the order. -/
def orderSubmittedType : EventType := ⟨"OrderSubmitted", 1⟩

/-- The type of an event. -/
def type : OrderEvent → EventType
  | .itemAddedV1 _ => itemAddedV1Type
  | .bulkItemsAdded _ => bulkItemsAddedType
  | .itemAdded _ _ => itemAddedType
  | .itemRemoved _ => itemRemovedType
  | .orderSubmitted => orderSubmittedType

/-- The JSON form. -/
def encode : OrderEvent → Json
  | .itemAddedV1 item => .object [("ItemAddedV1", .object [("item", .str item)])]
  | .bulkItemsAdded items =>
    .object [("BulkItemsAdded", .object [("items", .arr (items.map .str))])]
  | .itemAdded sku quantity =>
    .object [("ItemAdded", .object [("sku", .str sku), ("quantity", .nat quantity.toNat)])]
  | .itemRemoved sku => .object [("ItemRemoved", .object [("sku", .str sku)])]
  | .orderSubmitted => .str "OrderSubmitted"

/-- The names under which events are written. -/
def names : List String :=
  ["ItemAddedV1", "BulkItemsAdded", "ItemAdded", "ItemRemoved", "OrderSubmitted"]

/-- A number of units. -/
def readQuantity (j : Json) : Except DecodeError UInt32 := do
  pure (UInt32.ofNat (← j.readWord Json.word32))

/-- The fields of an event's body, which is an object. -/
def bodyFields (fields : List (String × (Json → Except DecodeError Unit))) :
    Json → Except DecodeError (List (String × Json))
  | .obj fs => (RecordShape.mk "struct variant" fields false).readFields fs
  | j => .error (j.unexpected "struct variant")

/-- The event with that name and body. -/
def decodeBody (name : String) (body : Json) : Except DecodeError OrderEvent :=
  match name with
  | "ItemAddedV1" => do
    let fs ← bodyFields [("item", Json.check Json.readText)] body
    pure (.itemAddedV1 (← (Json.fieldOf fs "item").readText))
  | "BulkItemsAdded" => do
    let fs ← bodyFields [("items", Json.check (Json.readList Json.readText))] body
    pure (.bulkItemsAdded (← (Json.fieldOf fs "items").readList Json.readText))
  | "ItemAdded" => do
    let fs ← bodyFields
      [("sku", Json.check Json.readText), ("quantity", Json.check readQuantity)] body
    pure (.itemAdded (← (Json.fieldOf fs "sku").readText)
      (← readQuantity (Json.fieldOf fs "quantity")))
  | "ItemRemoved" => do
    let fs ← bodyFields [("sku", Json.check Json.readText)] body
    pure (.itemRemoved (← (Json.fieldOf fs "sku").readText))
  | "OrderSubmitted" =>
    match body with
    | .null => .ok .orderSubmitted
    | j => .error (j.unexpected "unit")
  | name => .error (.unknownVariant name names)

/-- The event with that name and no body. -/
def decodeName (name : String) : Except DecodeError OrderEvent :=
  if name = "OrderSubmitted" then .ok .orderSubmitted
  else if names.contains name then .error (.invalidType "unit variant" "struct variant")
  else .error (.unknownVariant name names)

/-- The event that a JSON value holds. -/
def decode : Json → Except DecodeError OrderEvent
  | .str name => decodeName name
  | .obj [(name, body)] => decodeBody name body
  | .obj _ => .error (.invalidValue "map" "map with a single key")
  | j => .error (j.unexpected "string or map")

end OrderEvent

end EventLedger
