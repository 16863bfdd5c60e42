import EventLedger.Proofs.Clients.Alone
import EventLedger.Proofs.Orders.Setting

/-!
# Replaying orders that began with legacy events

A stored event is decoded under the type that it was stored as, brought into its current form, and
given to the handler of that form.  The legacy events have no handlers, so a load depends on the
upgraders: one unit of an item becomes an addition of one unit, and several items at once become as
many of them, none for an empty list.  The state is that of the current events, while the version
goes on to count the stored ones.

## Main definitions

* `Order.handle` — the order after an event, by the handler of its type.
* `Order.Records s xs` — the stream holds the events `xs` in their stored forms, without gaps.

## Main results

* `Order.apply_of_mem_current` — events in their current form have handlers.
* `OrderStore.rebuilt_of_records` — a recorded order is rebuilt as its current events tell.
* `Order.load_of_records` — **every recorded order is loaded, and as its current events tell.**
-/

namespace EventLedger

variable {id : AggregateId} {xs : List OrderEvent}

/-! ### Handling events -/

namespace Order

/-- The order after an event, by the handler of its type; legacy events have none. -/
def handle (o : Order) (x : OrderEvent) : Order :=
  match x with
  | .itemAdded .. => o.addItem x
  | .itemRemoved _ => o.removeItem x
  | .orderSubmitted => o.submit x
  | .itemAddedV1 _ => o
  | .bulkItemsAdded _ => o

/-- Events in their current form have handlers. -/
theorem apply_of_mem_current {x y : OrderEvent} (hy : y ∈ x.current) (o : Order) :
    aggregate.apply o y = .ok (o.handle y) := by
  cases x with
  | itemAddedV1 item =>
    obtain rfl := List.mem_singleton.1 hy
    rfl
  | bulkItemsAdded items =>
    obtain ⟨item, -, rfl⟩ := List.mem_map.1 hy
    rfl
  | itemAdded sku quantity =>
    obtain rfl := List.mem_singleton.1 hy
    rfl
  | itemRemoved sku =>
    obtain rfl := List.mem_singleton.1 hy
    rfl
  | orderSubmitted =>
    obtain rfl := List.mem_singleton.1 hy
    rfl

/-- Replaying events that have handlers is handling one after the other. -/
theorem replay_eq_foldl {ys : List OrderEvent} {o : Order}
    (h : ∀ y ∈ ys, ∀ o, aggregate.apply o y = .ok (o.handle y)) :
    aggregate.replay o ys = .ok (ys.foldl handle o) := by
  induction ys generalizing o with
  | nil => rfl
  | cons y ys ih =>
    rw [Aggregate.replay, h y List.mem_cons_self o]
    exact ih fun y' hy' => h y' (List.mem_cons_of_mem y hy')

theorem replay_current (xs : List OrderEvent) (o : Order) :
    aggregate.replay o (xs.flatMap OrderEvent.current) =
      .ok ((xs.flatMap OrderEvent.current).foldl handle o) := by
  refine replay_eq_foldl fun y hy => ?_
  obtain ⟨x, -, hyx⟩ := List.mem_flatMap.1 hy
  exact apply_of_mem_current hyx

end Order

/-! ### Recorded streams -/

namespace OrderEvent

/-- The current events are in their current form. -/
theorem flatMap_current (xs : List OrderEvent) :
    (xs.flatMap current).flatMap current = xs.flatMap current := by
  rw [List.flatMap_assoc]
  refine congrArg (List.flatMap · xs) (funext fun x => ?_)
  cases x with
  | bulkItemsAdded items => simp [current, List.flatMap_map, ← List.map_eq_flatMap]
  | _ => rfl

end OrderEvent

/-- The event is stored under its type and with its payload. -/
def OrderEvent.StoredAs (x : OrderEvent) (e : CommittedEvent) : Prop :=
  e.type = x.type ∧ e.payload = x.encode

namespace Order

/-- The stream holds the events in their stored forms, without gaps. -/
structure Records (s : Stream) (xs : List OrderEvent) : Prop where
  gapFree : s.GapFree
  stored : List.Forall₂ OrderEvent.StoredAs xs s.values

end Order

namespace OrderStore

variable {s : OrderStore} {passes : Nat → Prop} {log : EventLog} {outsiders : Prop}
  {es : List CommittedEvent}

/-- A recorded event is read in its current form. -/
theorem currentForm_of_storedAs {n : Nat} (hn : 3 ≤ n) {x : OrderEvent} {e : CommittedEvent}
    (h : x.StoredAs e) : (upgrading n).currentForm id e = .ok x.current := by
  have hread : (upgrading n).codec.readEvent e.payload e.type = .ok x := by
    simp [upgrading, plain, Order.codec, Codec.json, h.1, h.2, OrderEvent.decode_encode,
      Codec.checkType]
  unfold AggregateStore.currentForm
  rw [hread]
  exact OrderEvent.upgrade_eq hn x

/-- Recorded events are read in their current forms. -/
theorem currentForms_of_storedAs {n : Nat} (hn : 3 ≤ n)
    (h : List.Forall₂ OrderEvent.StoredAs xs es) :
    (upgrading n).currentForms id es = .ok (xs.flatMap OrderEvent.current) := by
  induction h with
  | nil => rfl
  | cons hx _ ih =>
    rw [AggregateStore.currentForms_cons, currentForm_of_storedAs hn hx, ih]
    rfl

/-- A recorded order is rebuilt as its current events tell. -/
theorem rebuilt_of_records (hs : (Order.setting passes log outsiders).Fits s)
    (hpasses : 3 ≤ s.upgraders.maxPasses) {stream : Stream} (h : Order.Records stream xs) :
    s.rebuilt id stream.values =
      .ok ⟨id, (xs.flatMap OrderEvent.current).foldl Order.handle {}, xs.length, []⟩ := by
  have hforms : s.currentForms id stream.values = .ok (xs.flatMap OrderEvent.current) :=
    (hs.currentForms id stream.values).trans (currentForms_of_storedAs hpasses h.stored)
  have hreplay := Order.replay_current xs {}
  have hlast := h.gapFree.sequence_getLast?_take (Nat.le_refl _)
  rw [List.take_length, ← h.stored.length_eq] at hlast
  refine AggregateStore.rebuilt_eq_ok.2 ⟨_, _, hforms, ?_, congrArg (Root.mk id _ · []) hlast.symm⟩
  rw [hs.aggregate]
  exact hreplay

end OrderStore

/-! ### Loading -/

namespace Order

variable {s : OrderStore} {config : StoreConfig} {c : Caller Order OrderEvent}
  {w : World Order OrderEvent}

/-- A recorded order is loaded. -/
theorem yields_of_records (hs : OrderStore.standard = .ok s)
    (hpasses : 3 ≤ config.maxUpgradePasses) (hstore : c.store = s.withConfig config)
    (hlive : w.fired c.number = false) (h : Records (w.log.stream (key c.id)) xs) :
    c.Yields w (.ok ⟨c.id, (xs.flatMap OrderEvent.current).foldl handle {}, xs.length, []⟩) := by
  obtain rfl := Except.ok.inj (standard_eq.symm.trans hs)
  have hfits : (setting (fun _ => True) .empty False).Fits c.store := by
    rw [hstore]
    exact fits_standard hs config trivial none false []
  have hbound : 3 ≤ c.store.upgraders.maxPasses := by
    rw [hstore]
    exact Nat.le_trans hpasses (Nat.le_max_left _ 1)
  have hkey : c.key = key c.id := hfits.keyOf c.id
  have hload : w.log.load c.key 1 = (w.log.stream (key c.id)).values := by
    rw [hkey, EventLog.load_eq_drop h.gapFree (Nat.le_refl 1), Nat.sub_self, List.drop_zero]
  have hyields := Caller.yields_rebuilt_of_plain (c := c) (by rw [hstore]; rfl)
    (by rw [hstore]; rfl) hlive
  rw [hload, OrderStore.rebuilt_of_records hfits hbound h] at hyields
  exact hyields

/-- **Every recorded order is loaded, and as its current events tell**: the state is what the
handlers make of the current events one after the other, and the version counts the stored ones.  A
stream in which those current events themselves are stored shows the same state. -/
theorem load_of_records (hs : OrderStore.standard = .ok s) (hpasses : 3 ≤ config.maxUpgradePasses)
    (hstore : c.store = s.withConfig config) (hlive : w.fired c.number = false)
    (h : Records (w.log.stream (key c.id)) xs) :
    ∃ o : Order, o = (xs.flatMap OrderEvent.current).foldl handle {} ∧
      c.Yields w (.ok ⟨c.id, o, xs.length, []⟩) ∧
      ∀ (c' : Caller Order OrderEvent) (w' : World Order OrderEvent),
        c'.store = s.withConfig config → w'.fired c'.number = false →
        Records (w'.log.stream (key c'.id)) (xs.flatMap OrderEvent.current) →
          c'.Yields w' (.ok ⟨c'.id, o, (xs.flatMap OrderEvent.current).length, []⟩) := by
  refine ⟨_, rfl, yields_of_records hs hpasses hstore hlive h, ?_⟩
  intro c' w' hstore' hlive' h'
  have hyields := yields_of_records hs hpasses hstore' hlive' h'
  rw [OrderEvent.flatMap_current] at hyields
  exact hyields

theorem records_legacyLog :
    Records (legacyLog.stream (key legacyId)) [.bulkItemsAdded ["A", "B"]] := by
  have hvalues : (legacyLog.stream (key legacyId)).values =
      [PendingEvent.commit ⟨1, OrderEvent.bulkItemsAddedType,
        (OrderEvent.bulkItemsAdded ["A", "B"]).encode, .empty⟩ (key legacyId) (.ofNat 0) 1] := rfl
  refine ⟨gapFree_legacyLog, ?_⟩
  rw [hvalues]
  exact .cons ⟨rfl, rfl⟩ .nil

/-- Two items that were added at once are two lines after three passes, at version 1. -/
theorem load_of_legacyLog : ∃ (c : Caller Order OrderEvent) (w : World Order OrderEvent),
    c.store.upgraders.maxPasses = 3 ∧
      Records (w.log.stream (key c.id)) [.bulkItemsAdded ["A", "B"]] ∧
      c.Yields w (.ok ⟨c.id, ⟨[⟨"A", 1⟩, ⟨"B", 1⟩], false⟩, 1, []⟩) := by
  let config : StoreConfig := { maxUpgradePasses := 3 }
  let c : Caller Order OrderEvent :=
    ⟨0, (OrderStore.upgrading 16).withConfig config, 0, legacyId, .load⟩
  let w : World Order OrderEvent :=
    ⟨legacyLog, fun _ => .empty .zero, fun _ _ => 0, fun _ => false, []⟩
  obtain ⟨o, rfl, hyields, -⟩ :=
    load_of_records (c := c) (w := w) standard_eq (Nat.le_refl 3) rfl rfl records_legacyLog
  exact ⟨c, w, rfl, records_legacyLog, hyields⟩

end Order

end EventLedger
