import EventLedger.Orders.Store
import EventLedger.Proofs.Clients.Setting
import EventLedger.Proofs.Json.Records

/-!
# The stored forms of orders

Every order and every event of an order is read back as it was written, and no more than three
passes bring a stored event into its current form.

## Main definitions

* `OrderEvent.current` — the current form of an event.

## Main results

* `OrderEvent.decode_encode`, `Order.decode_encode` — **what was written is read back.**
* `OrderEvent.upgraders_eq` — both upgraders are accepted.
* `OrderEvent.upgrade_eq` — three passes are enough for every event.
-/

namespace EventLedger

/-! ### Lists -/

theorem Json.readList_map {α β : Type} {item : Json → Except DecodeError β} {f : α → Json}
    {g : α → β} (h : ∀ a, item (f a) = .ok (g a)) (l : List α) :
    readList item (.arr (l.map f)) = .ok (l.map g) := by
  unfold readList
  induction l with
  | nil => rfl
  | cons a l ih =>
    simp only at ih
    simp only [List.map_cons, List.mapM_cons, h a, ih]
    rfl

/-! ### Events -/

namespace OrderEvent

theorem readQuantity_nat (q : UInt32) : readQuantity (.nat q.toNat) = .ok q := by
  have hq : (q.toNat : Int) ≤ Json.word32.greatest := by
    have := q.toNat_lt
    simp only [Json.word32]
    omega
  unfold readQuantity Json.readWord Json.nat
  simp [hq, bind, Except.bind, pure, Except.pure]

/-- An object keeps its fields in the order of their names. -/
theorem object_sku_quantity (sku : String) (quantity : UInt32) :
    Json.object [("sku", .str sku), ("quantity", .nat quantity.toNat)] =
      .obj [("quantity", .nat quantity.toNat), ("sku", .str sku)] := by
  have hnames : compare "quantity" "sku" = .lt := by decide
  simp only [Json.object, List.foldl, OrderedMap.insertEntry, hnames]

theorem check_sku_quantity (sku : String) (quantity : UInt32) :
    ∀ f ∈ [("quantity", Json.nat quantity.toNat), ("sku", .str sku)], ∀ check,
      [("sku", Json.check Json.readText), ("quantity", Json.check readQuantity)].lookup f.1 =
        some check → check f.2 = .ok () := by
  have hsku : Json.readText (.str sku) = .ok sku := rfl
  simp [List.lookup_cons, Json.check_eq_ok hsku, Json.check_eq_ok (readQuantity_nat quantity)]

/-- **An event is read back as it was written.** -/
theorem decode_encode (e : OrderEvent) : decode e.encode = .ok e := by
  cases e with
  | itemAddedV1 item => rfl
  | bulkItemsAdded items =>
    have hitems : Json.readList Json.readText (.arr (items.map .str)) = .ok items := by
      simpa using Json.readList_map (f := Json.str) (g := id) (fun _ => rfl) items
    have hfields : bodyFields [("items", Json.check (Json.readList Json.readText))]
        (.obj [("items", .arr (items.map .str))]) = .ok [("items", .arr (items.map .str))] :=
      RecordShape.readFields_eq_ok (by simp [List.lookup_cons, Json.check_eq_ok hitems]) rfl
    change decodeBody "BulkItemsAdded" (.obj [("items", .arr (items.map .str))]) = _
    rw [decodeBody, hfields]
    change (do pure (bulkItemsAdded (← Json.readList Json.readText (.arr (items.map .str))))) = _
    rw [hitems]
    rfl
  | itemAdded sku quantity =>
    have hfields : bodyFields
        [("sku", Json.check Json.readText), ("quantity", Json.check readQuantity)]
        (.obj [("quantity", .nat quantity.toNat), ("sku", .str sku)]) =
          .ok [("quantity", .nat quantity.toNat), ("sku", .str sku)] :=
      RecordShape.readFields_eq_ok (check_sku_quantity sku quantity) rfl
    rw [encode, object_sku_quantity]
    change decodeBody "ItemAdded" (.obj [("quantity", .nat quantity.toNat), ("sku", .str sku)]) = _
    rw [decodeBody, hfields]
    change (do pure (itemAdded sku (← readQuantity (.nat quantity.toNat)))) = _
    rw [readQuantity_nat]
    rfl
  | itemRemoved sku => rfl
  | orderSubmitted => rfl

end OrderEvent

/-! ### States -/

namespace Order

theorem decodeLine_encodeLine (l : OrderLine) : decodeLine (encodeLine l) = .ok l := by
  have hfields : lineShape.read (.obj [("quantity", .nat l.quantity.toNat), ("sku", .str l.sku)]) =
      .ok [("quantity", .nat l.quantity.toNat), ("sku", .str l.sku)] :=
    RecordShape.readFields_eq_ok (OrderEvent.check_sku_quantity l.sku l.quantity) rfl
  rw [encodeLine, OrderEvent.object_sku_quantity, decodeLine, hfields]
  change (do pure (OrderLine.mk l.sku (← OrderEvent.readQuantity (.nat l.quantity.toNat)))) = _
  rw [OrderEvent.readQuantity_nat]
  rfl

/-- **An order is read back as it was written.** -/
theorem decode_encode (o : Order) : decode o.encode = .ok o := by
  have hlines : Json.readList decodeLine (.arr (o.lines.map encodeLine)) = .ok o.lines := by
    simpa using Json.readList_map (g := id) decodeLine_encodeLine o.lines
  have hsubmitted : Json.readBool (.bool o.submitted) = .ok o.submitted := rfl
  have hobject : o.encode =
      .obj [("lines", .arr (o.lines.map encodeLine)), ("submitted", .bool o.submitted)] := by
    have hnames : compare "submitted" "lines" = .gt := by decide
    simp only [encode, Json.object, List.foldl, OrderedMap.insertEntry, hnames]
  have hfields : shape.read
      (.obj [("lines", .arr (o.lines.map encodeLine)), ("submitted", .bool o.submitted)]) =
        .ok [("lines", .arr (o.lines.map encodeLine)), ("submitted", .bool o.submitted)] :=
    RecordShape.readFields_eq_ok
      (by simp [shape, List.lookup_cons, Json.check_eq_ok hlines, Json.check_eq_ok hsubmitted]) rfl
  rw [hobject, decode, hfields]
  change (do pure (Order.mk (← Json.readList decodeLine (.arr (o.lines.map encodeLine)))
    o.submitted)) = _
  rw [hlines]
  rfl

end Order

/-! ### Upgrading -/

namespace OrderEvent

open UpgraderChain

/-- Both upgraders are accepted. -/
theorem upgraders_eq : upgraders = .ok ⟨[unitAdded, itemsSplit], 16⟩ := by
  have hpath : findPath ([] : List (Upgrader OrderEvent)) unitAdded.outputs unitAdded.input =
      none := by
    simp [findPath, search, successors, unitAdded, itemAddedType, itemAddedV1Type]
  have hfirst : register {} unitAdded = .ok ⟨[unitAdded], 16⟩ := by
    simp only [register, hpath]
    rfl
  have hpath : findPath [unitAdded] itemsSplit.outputs itemsSplit.input = none := by
    simp [findPath, search, successors, unitAdded, itemsSplit, itemAddedType, itemAddedV1Type,
      bulkItemsAddedType]
  have hsecond : register ⟨[unitAdded], 16⟩ itemsSplit = .ok ⟨[unitAdded, itemsSplit], 16⟩ := by
    simp only [register, hpath]
    rfl
  rw [upgraders, hfirst]
  exact hsecond

/-- The current form of an event: each item of a legacy addition is an addition of one unit. -/
def current : OrderEvent → List OrderEvent
  | .itemAddedV1 item => [.itemAdded item 1]
  | .bulkItemsAdded items => items.map fun item => .itemAdded item 1
  | e => [e]

/-- No upgrader replaces an addition of units. -/
theorem type_itemAdded_ne (sku : String) (quantity : UInt32) :
    type (itemAdded sku quantity) ≠ unitAdded.input ∧
      type (itemAdded sku quantity) ≠ itemsSplit.input := by
  have hinputs : itemAddedType ≠ itemAddedV1Type ∧ itemAddedType ≠ bulkItemsAddedType := by decide
  exact hinputs

theorem pass_units (items : List String) :
    pass type [unitAdded, itemsSplit] (items.map fun item => itemAdded item 1) =
      (false, items.map fun item => itemAdded item 1) := by
  simp [UpgraderChain.pass, applyOne, type_itemAdded_ne]

theorem pass_singleItems {items : List String} (h : items ≠ []) :
    pass type [unitAdded, itemsSplit] (items.map itemAddedV1) =
      (true, items.map fun item => itemAdded item 1) := by
  have hunit : ∀ item : String, type (itemAddedV1 item) = unitAdded.input := fun _ => rfl
  have htransform : ∀ item : String, unitAdded.transform (itemAddedV1 item) = [itemAdded item 1] :=
    fun _ => rfl
  have happly : applyOne type unitAdded (items.map itemAddedV1) =
      some (items.map fun item => itemAdded item 1) := by
    obtain ⟨item, rest, rfl⟩ := List.exists_cons_of_ne_nil h
    simp [applyOne, hunit, htransform, List.flatMap_map, ← List.map_eq_flatMap]
  have hrest : applyOne type itemsSplit (items.map fun item => itemAdded item 1) = none := by
    simp [applyOne, type_itemAdded_ne]
  rw [UpgraderChain.pass, happly]
  simp only [UpgraderChain.pass, hrest]

theorem pass_bulk (items : List String) :
    pass type [unitAdded, itemsSplit] [bulkItemsAdded items] = (true, items.map itemAddedV1) := by
  simp [UpgraderChain.pass, applyOne, type, unitAdded, itemsSplit, bulkItemsAddedType,
    itemAddedV1Type, toSingleItems]

/-- **Three passes are enough for every event.** -/
theorem upgrade_eq {n : Nat} (hn : 3 ≤ n) (e : OrderEvent) :
    upgrade ⟨[unitAdded, itemsSplit], n⟩ type e = .ok e.current := by
  refine upgrade_mono hn ?_
  cases e with
  | bulkItemsAdded items =>
    cases items with
    | nil => rfl
    | cons item rest =>
      unfold upgrade
      simp only [passes, pass_bulk]
      simp only [pass_singleItems (List.cons_ne_nil item rest), pass_units]
      rfl
  | itemAddedV1 item => rfl
  | itemAdded sku quantity => rfl
  | itemRemoved sku => rfl
  | orderSubmitted => rfl

end OrderEvent

end EventLedger
