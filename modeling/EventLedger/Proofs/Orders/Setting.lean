import EventLedger.Proofs.Clients.Schedule
import EventLedger.Proofs.Orders.Forms
import EventLedger.Proofs.Orders.Rules

/-!
# Stores of orders

Stores of orders that upgrade the legacy events, over one log.  They may differ in how many passes
they spend on an event, so one with a small bound may fail to read what another one reads.

## Main definitions

* `OrderStore.upgrading` — a store of orders with a bound on passes.
* `Order.setting` — what stores of orders have in common.
* `Order.rebuilt` — the order that stored events describe.
* `Order.part`, `Order.legacyLog` — a call of a store of orders, and a log, for systems to be
  played.

## Main results

* `Order.fits_standard` — the standard store is one of them, whatever its options.
* `Order.thorough` — a store with a bound of at least three reads whatever any store reads.
-/

namespace EventLedger

/-- A store of orders that upgrades their legacy events in at most `n` passes. -/
def OrderStore.upgrading (n : Nat) : OrderStore :=
  { OrderStore.plain with upgraders := ⟨[OrderEvent.unitAdded, OrderEvent.itemsSplit], n⟩ }

namespace Order

/-- The types of the events that an order handles. -/
theorem handles_iff {t : EventType} : aggregate.handles t = true ↔
    t = OrderEvent.itemAddedType ∨ t = OrderEvent.itemRemovedType ∨
      t = OrderEvent.orderSubmittedType := by
  simp only [Aggregate.handles, aggregate]
  split
  · simp_all
  · split
    · simp_all
    · split <;> simp_all

/-- What stores of orders have in common whose bounds on passes are positive and satisfy `passes`.
-/
def setting (passes : Nat → Prop) (log : EventLog) (outsiders : Prop) :
    Setting Order OrderEvent where
  aggregate := aggregate
  codec := codec
  upgraders := [OrderEvent.unitAdded, OrderEvent.itemsSplit]
  bounds n := 0 < n ∧ passes n
  log := log
  outsiders := outsiders
  bounds_pos _ h := h.1
  read_written e p _ hp := by
    obtain rfl : e.encode = p := by simpa [codec, Codec.json] using hp
    simp [codec, Codec.json, OrderEvent.decode_encode, Codec.checkType, aggregate]
  current t ht u hu := by
    have hinputs : ∀ t ∈ [OrderEvent.itemAddedType, OrderEvent.itemRemovedType,
        OrderEvent.orderSubmittedType], ∀ i ∈ [OrderEvent.itemAddedV1Type,
        OrderEvent.bulkItemsAddedType], i ≠ t := by decide
    refine hinputs t (by simpa using handles_iff.1 ht) u.input ?_
    rcases List.mem_pair.1 hu with rfl | rfl
    · exact List.mem_cons_self
    · exact List.mem_cons_of_mem _ List.mem_cons_self
  readState_written s j hj := by
    obtain rfl : s.encode = j := by simpa [codec, Codec.json] using hj
    simp [codec, Codec.json, decode_encode]

/-- The key of an order's stream. -/
def key (id : AggregateId) : StreamKey := ⟨aggregate.name, id⟩

/-- The order that stored events describe, as the standard store reads them. -/
def rebuilt (id : AggregateId) (es : List CommittedEvent) : Except Error OrderRoot := do
  (← OrderStore.standard).rebuilt id es

variable {passes : Nat → Prop} {log : EventLog} {outsiders : Prop}

theorem standard_eq : OrderStore.standard = .ok (.upgrading 16) := by
  rw [OrderStore.standard, OrderEvent.upgraders_eq]
  rfl

theorem rebuilt_eq (id : AggregateId) (es : List CommittedEvent) :
    rebuilt id es = (OrderStore.upgrading 16).rebuilt id es := by
  rw [rebuilt, standard_eq]
  rfl

/-- **The standard store is one of the setting**, whatever its options. -/
theorem fits_standard {s : OrderStore} (hs : OrderStore.standard = .ok s) (config : StoreConfig)
    (hpasses : passes (max config.maxUpgradePasses 1)) (snapshots : Option SnapshotStrategy)
    (caching : Bool) (providers : List MetadataProvider) :
    (setting passes log outsiders).Fits
      { s.withConfig config with
        snapshots := snapshots, caching := caching, providers := providers } := by
  obtain rfl := Except.ok.inj (standard_eq.symm.trans hs)
  exact ⟨rfl, rfl, rfl, Nat.lt_of_lt_of_le Nat.one_pos (Nat.le_max_right _ _), hpasses⟩

/-- **A store with a bound of at least three reads whatever any store reads.** -/
theorem thorough {n : Nat} (hn : 3 ≤ n) : (setting passes log outsiders).Thorough n := by
  intro m _ id e xs h
  have hmax := Setting.currentForm_mono (Nat.le_max_left m n) h
  unfold AggregateStore.currentForm Setting.reader at hmax ⊢
  simp only at hmax ⊢
  split at hmax
  next => cases hmax
  next x _ =>
    have hle : 3 ≤ max m n := Nat.le_trans hn (Nat.le_max_right _ _)
    rw [← hmax]
    exact (OrderEvent.upgrade_eq hn x).trans (OrderEvent.upgrade_eq hle x).symm

/-- What the first events of a stream describe, if some store reads them. -/
theorem rebuilt_of_shows {id : AggregateId} {s : Stream} {st : Order} {V : Nat} (hs : s.GapFree)
    (hV : V ≤ s.values.length)
    (h : (setting passes log outsiders).Shows id (s.values.take V) st) :
    rebuilt id (s.values.take V) = .ok ⟨id, st, V, []⟩ := by
  have hthorough : (setting passes log outsiders).Thorough 16 := thorough (by omega)
  have hrebuilt := hthorough.rebuilt h
  rw [hs.sequence_getLast?_take hV] at hrebuilt
  rw [rebuilt_eq]
  exact hrebuilt

/-- A call of the standard store with some options: it loads an order, or gives it a command. -/
def part (snapshots : Option SnapshotStrategy) (caching : Bool) (id : AggregateId)
    (command : Option (Option String × OrderCommand)) : Part Order OrderEvent where
  store := { OrderStore.upgrading 16 with snapshots := snapshots, caching := caching }
  cache := 0
  id := id
  change := command.map fun c => (c.1, c.2.decide)

/-- A part is admitted that loads an order or gives it a command. -/
theorem admits_of_command {p : Part Order OrderEvent}
    {command : Option (Option String × OrderCommand)}
    (hfits : (setting passes log outsiders).Fits p.store) (hlog : (log.stream (key p.id)).GapFree)
    (hcommand : p.change = command.map fun c => (c.1, c.2.decide)) (number : Nat) :
    (setting passes log outsiders).Admits (p.caller number) := by
  have htracked : (setting passes log outsiders).Tracked (p.store.keyOf p.id) := by
    rw [hfits.keyOf]
    exact hlog
  refine Part.admits hfits htracked ?_ number
  intro change hchange root root' h
  rw [hcommand] at hchange
  obtain ⟨c, -, rfl⟩ := Option.map_eq_some_iff.1 hchange
  exact OrderCommand.emits h

theorem admits_part {snapshots : Option SnapshotStrategy} {caching : Bool} {id : AggregateId}
    {command : Option (Option String × OrderCommand)} (hpasses : passes 16)
    (hlog : (log.stream (key id)).GapFree) (number : Nat) :
    (setting passes log outsiders).Admits ((part snapshots caching id command).caller number) := by
  have hfits : (setting passes log outsiders).Fits (part snapshots caching id command).store :=
    ⟨rfl, rfl, rfl, Nat.succ_pos 15, hpasses⟩
  have hcommand : (part snapshots caching id command).change =
      command.map fun c => (c.1, c.2.decide) := rfl
  exact admits_of_command hfits hlog hcommand number

/-- The identifier of an order. -/
def legacyId : AggregateId := ⟨"order-1", by decide⟩

/-- A log in which that order has one event, of a legacy type. -/
def legacyLog : EventLog :=
  (EventLog.empty.commit (key legacyId) (.ofNat 0)
    [⟨1, OrderEvent.bulkItemsAddedType, (OrderEvent.bulkItemsAdded ["A", "B"]).encode, .empty⟩]).2

theorem gapFree_legacyLog : (legacyLog.stream (key legacyId)).GapFree := ⟨rfl, rfl⟩

end Order

end EventLedger
