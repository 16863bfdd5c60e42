import EventLedger.Proofs.Orders.Rules
import Mathlib.Algebra.GroupWithZero.Nat
import Mathlib.Data.List.DropRight

/-!
# The closed form of an order

An order is determined by the additions of each item after the item's last removal: it has one line
for each item that has such additions, with their units up to the greatest number of units, and the
lines are in the order of the first such addition of each item.  Additions before the removal leave
no trace, so an item that comes back does so at the end.

The characterization grows with the events, one at the end at a time.

## Main definitions

* `OrderEvent.IsCurrent` — the events that orders emit.
* `Order.additions sku events` — the additions of the item after its last removal.
* `Order.ClosedForm events o` — the order is the one that the events tell of.

## Main results

* `Order.mem_additions_iff`, `Order.pairwise_additions` — which additions those are, and in which
  order.
* `Order.ClosedForm.step` — handling one more event keeps to the closed form.
* `Order.ClosedForm.unique` — the closed form determines the order.
* `Order.closedForm_of_current` — **replaying events that orders emit gives the closed form.**
-/

namespace EventLedger

namespace OrderEvent

/-- The events that orders emit; the legacy events are not among them. -/
def IsCurrent : OrderEvent → Prop
  | .itemAdded _ _ => True
  | .itemRemoved _ => True
  | .orderSubmitted => True
  | .itemAddedV1 _ => False
  | .bulkItemsAdded _ => False

/-- The number of units of an item that an event adds. -/
def adds? (sku : String) : OrderEvent → Option UInt32
  | .itemAdded added quantity => if added = sku then some quantity else none
  | _ => none

theorem adds?_eq_some_iff {sku : String} {x : OrderEvent} {quantity : UInt32} :
    x.adds? sku = some quantity ↔ x = .itemAdded sku quantity := by
  cases x with
  | itemAdded added n => simp [adds?]
  | _ => simp [adds?]

end OrderEvent

namespace Order

variable {sku sku' : String} {events : List OrderEvent} {x : OrderEvent} {o : Order}
  {quantity : UInt32}

/-! ### Additions -/

/-- The additions of an item after its last removal: the position of each of them and the number of
units, in order. -/
def additions (sku : String) (events : List OrderEvent) : List (Nat × UInt32) :=
  (events.zipIdx.rtakeWhile fun p => p.1 != .itemRemoved sku).filterMap fun p =>
    (p.1.adds? sku).map fun quantity => (p.2, quantity)

/-- The units of an item that were added after its last removal. -/
def units (sku : String) (events : List OrderEvent) : Nat :=
  ((additions sku events).map (·.2.toNat)).sum

/-- After their last removals, the one item was first added before the other. -/
def AddedBefore (events : List OrderEvent) (sku sku' : String) : Prop :=
  ∃ p ∈ (additions sku events).head?, ∃ p' ∈ (additions sku' events).head?, p.1 < p'.1

theorem additions_nil (sku : String) : additions sku [] = [] := rfl

theorem additions_concat (sku : String) (events : List OrderEvent) (x : OrderEvent) :
    additions sku (events ++ [x]) =
      if x = .itemRemoved sku then []
      else additions sku events ++
        ((x.adds? sku).map fun quantity => (events.length, quantity)).toList := by
  rw [additions, List.zipIdx_append, List.zipIdx_singleton, List.rtakeWhile_concat]
  by_cases hx : x = .itemRemoved sku
  · simp [hx]
  · cases hadds : x.adds? sku <;> simp [hx, hadds, additions]

@[simp]
theorem additions_concat_itemAdded :
    additions sku (events ++ [.itemAdded sku' quantity]) =
      if sku' = sku then additions sku events ++ [(events.length, quantity)]
      else additions sku events := by
  rw [additions_concat, if_neg nofun]
  by_cases hsku : sku' = sku <;> simp [OrderEvent.adds?, hsku]

@[simp]
theorem additions_concat_itemRemoved :
    additions sku (events ++ [.itemRemoved sku']) =
      if sku' = sku then [] else additions sku events := by
  rw [additions_concat]
  simp [OrderEvent.adds?]

@[simp]
theorem additions_concat_orderSubmitted :
    additions sku (events ++ [.orderSubmitted]) = additions sku events := by
  rw [additions_concat, if_neg nofun]
  simp [OrderEvent.adds?]

/-- **Which additions those are**: no removal of the item comes after them. -/
theorem mem_additions_iff {i : Nat} : (i, quantity) ∈ additions sku events ↔
    events[i]? = some (.itemAdded sku quantity) ∧
      ∀ j, i < j → events[j]? ≠ some (.itemRemoved sku) := by
  induction events using List.reverseRecOn with
  | nil => simp [additions_nil]
  | append_singleton events x ih =>
    rw [additions_concat]
    by_cases hx : x = .itemRemoved sku
    · -- the removal comes after all the additions before it
      subst hx
      rw [if_pos rfl]
      refine iff_of_false List.not_mem_nil ?_
      rintro ⟨hi, hlater⟩
      have hlt : i < events.length := by grind
      exact hlater events.length hlt List.getElem?_concat_length
    · rw [if_neg hx, List.mem_append, ih]
      have hlater : ∀ j : Nat, (events ++ [x])[j]? = some (OrderEvent.itemRemoved sku) ↔
          events[j]? = some (OrderEvent.itemRemoved sku) := by grind
      have hnew : (i, quantity) ∈
          ((x.adds? sku).map fun quantity => (events.length, quantity)).toList ↔
            i = events.length ∧ x = .itemAdded sku quantity := by
        rw [Option.mem_toList, Option.map_eq_some_iff, ← OrderEvent.adds?_eq_some_iff]
        constructor
        · rintro ⟨_, hadds, ⟨⟩⟩
          exact ⟨rfl, hadds⟩
        · rintro ⟨rfl, hadds⟩
          exact ⟨quantity, hadds, rfl⟩
      simp only [ne_eq, hlater, hnew]
      grind

theorem lt_length_of_mem_additions {p : Nat × UInt32} (h : p ∈ additions sku events) :
    p.1 < events.length :=
  (List.getElem?_eq_some_iff.1 (mem_additions_iff.1 h).1).1

/-- The additions are in the order of their positions. -/
theorem pairwise_additions (sku : String) (events : List OrderEvent) :
    (additions sku events).Pairwise (·.1 < ·.1) := by
  induction events using List.reverseRecOn with
  | nil => exact .nil
  | append_singleton events x ih =>
    rw [additions_concat]
    split
    · exact .nil
    · refine List.pairwise_append.2 ⟨ih, ?_, ?_⟩
      · cases x.adds? sku with
        | none => exact .nil
        | some quantity => exact List.pairwise_singleton _ _
      · intro p hp p' hp'
        obtain ⟨quantity, -, rfl⟩ := Option.map_eq_some_iff.1 (Option.mem_toList.1 hp')
        exact lt_length_of_mem_additions hp

/-! ### The order of the first additions -/

/-- More additions leave the first one as it is. -/
theorem AddedBefore.of_prefix {events' : List OrderEvent} (h : AddedBefore events sku sku')
    (hsku : additions sku events <+: additions sku events')
    (hsku' : additions sku' events <+: additions sku' events') : AddedBefore events' sku sku' := by
  obtain ⟨p, hp, p', hp', hlt⟩ := h
  obtain ⟨t, ht⟩ := hsku
  obtain ⟨t', ht'⟩ := hsku'
  refine ⟨p, ?_, p', ?_, hlt⟩
  · rw [← ht, List.head?_append, hp]
    rfl
  · rw [← ht', List.head?_append, hp']
    rfl

/-- An item that had no additions comes after those that had. -/
theorem addedBefore_concat (hsku : additions sku events ≠ [])
    (hsku' : additions sku' events = []) :
    AddedBefore (events ++ [.itemAdded sku' quantity]) sku sku' := by
  obtain ⟨p, rest, hp⟩ := List.exists_cons_of_ne_nil hsku
  have hlt : p.1 < events.length := lt_length_of_mem_additions (hp ▸ List.mem_cons_self)
  have hne : sku' ≠ sku := by
    rintro rfl
    exact hsku hsku'
  refine ⟨p, ?_, (events.length, quantity), ?_, hlt⟩
  · rw [additions_concat_itemAdded, if_neg hne, hp]
    rfl
  · rw [additions_concat_itemAdded, if_pos rfl, hsku']
    rfl

theorem AddedBefore.asymm (h : AddedBefore events sku sku') : ¬AddedBefore events sku' sku := by
  rintro ⟨p, hp, p', hp', hlt⟩
  obtain ⟨q, hq, q', hq', hlt'⟩ := h
  obtain rfl : q' = p := Option.mem_unique hq' hp
  obtain rfl : q = p' := Option.mem_unique hq hp'
  exact lt_asymm hlt hlt'

/-! ### Units -/

/-- Adding units to the line of an item counts them, whether or not there was one. -/
theorem counts_addLine {u u' : String → Nat} (hthis : u' sku = u sku + quantity.toNat)
    (hothers : ∀ s, s ≠ sku → u' s = u s) :
    ∀ {lines : List OrderLine}, (lines.map (·.sku)).Nodup →
      (sku ∉ lines.map (·.sku) → u sku = 0) →
      (∀ l ∈ lines, l.quantity.toNat = min (2 ^ 32 - 1) (u l.sku)) →
      ∀ l ∈ addLine sku quantity lines, l.quantity.toNat = min (2 ^ 32 - 1) (u' l.sku)
  | [], _, hnone, _ => by
    have hlt : quantity.toNat < 2 ^ 32 := quantity.toNat_lt
    have hzero : u sku = 0 := hnone List.not_mem_nil
    refine List.forall_mem_singleton.2 ?_
    show quantity.toNat = min (2 ^ 32 - 1) (u' sku)
    omega
  | l₁ :: rest, hdistinct, hnone, hcounts => by
    obtain ⟨hfirst, hrest⟩ := List.nodup_cons.1 hdistinct
    obtain ⟨hcount₁, hcounts⟩ := List.forall_mem_cons.1 hcounts
    rw [addLine]
    by_cases hsku : l₁.sku = sku
    · rw [if_pos hsku]
      refine List.forall_mem_cons.2 ⟨?_, fun l hl => ?_⟩
      · have hgreatest : greatestQuantity.toNat = 2 ^ 32 - 1 := rfl
        rw [hsku] at hcount₁
        rw [toNat_addQuantity, hgreatest, hthis, hcount₁]
        omega
      · have hne : l.sku ≠ sku := fun h =>
          hfirst (List.mem_map.2 ⟨l, hl, h.trans hsku.symm⟩)
        rw [hothers l.sku hne, hcounts l hl]
    · rw [if_neg hsku]
      have hnone' : sku ∉ rest.map (·.sku) → u sku = 0 := fun hnot =>
        hnone (List.not_mem_cons_of_ne_of_not_mem (Ne.symm hsku) hnot)
      refine List.forall_mem_cons.2 ⟨?_, counts_addLine hthis hothers hrest hnone' hcounts⟩
      rw [hothers l₁.sku hsku, hcount₁]

theorem units_eq_zero (h : additions sku events = []) : units sku events = 0 := by
  rw [units, h]
  rfl

theorem units_concat_itemAdded :
    units sku (events ++ [.itemAdded sku quantity]) = units sku events + quantity.toNat := by
  simp [units]

theorem units_concat_of_ne (h : sku' ≠ sku) :
    units sku (events ++ [.itemAdded sku' quantity]) = units sku events := by
  simp [units, h]

/-! ### The closed form -/

/-- The order is the one that the events tell of. -/
structure ClosedForm (events : List OrderEvent) (o : Order) : Prop where
  /-- The lines are those of the items that were added after their last removal. -/
  present : ∀ sku, sku ∈ o.skus ↔ additions sku events ≠ []
  /-- No item has two lines. -/
  distinct : o.skus.Nodup
  /-- The lines are in the order of the first of those additions. -/
  ordered : o.skus.Pairwise (AddedBefore events)
  /-- A line has the units of those additions, up to the greatest number of units. -/
  quantity : ∀ l ∈ o.lines, l.quantity.toNat = min (2 ^ 32 - 1) (units l.sku events)
  /-- The order is closed by the event that says so. -/
  submitted : o.submitted = true ↔ .orderSubmitted ∈ events

namespace ClosedForm

theorem nil : ClosedForm [] aggregate.initial where
  present sku := by simp [skus, aggregate, additions_nil]
  distinct := List.nodup_nil
  ordered := .nil
  quantity _ hl := absurd hl List.not_mem_nil
  submitted := by simp [aggregate]

/-- Units that are added go to the line of the item, or to a new line at the end. -/
theorem itemAdded (h : ClosedForm events o) (sku : String) (quantity : UInt32) :
    ClosedForm (events ++ [.itemAdded sku quantity])
      { o with lines := addLine sku quantity o.lines } := by
  have hskus : ({ o with lines := addLine sku quantity o.lines } : Order).skus =
      if sku ∈ o.skus then o.skus else o.skus ++ [sku] := map_sku_addLine o.lines
  have hkept : ∀ s, additions s events <+: additions s (events ++ [.itemAdded sku quantity]) := by
    intro s
    rw [additions_concat_itemAdded]
    split
    · exact List.prefix_append _ _
    · exact List.prefix_rfl
  have hordered : o.skus.Pairwise (AddedBefore (events ++ [.itemAdded sku quantity])) :=
    h.ordered.imp fun hbefore => hbefore.of_prefix (hkept _) (hkept _)
  have hnone : sku ∉ o.skus → additions sku events = [] := fun hsku =>
    not_not.1 fun hne => hsku ((h.present sku).2 hne)
  refine ⟨?_, ?_, ?_, ?_, ?_⟩
  · intro s
    rw [hskus, additions_concat_itemAdded]
    by_cases hs : sku = s
    · subst hs
      split <;> simp [*]
    · rw [if_neg hs, ← h.present s]
      split
      · exact Iff.rfl
      · simp [Ne.symm hs]
  · exact nodup_map_sku_addLine h.distinct
  · rw [hskus]
    split
    · exact hordered
    next hsku =>
      refine List.pairwise_append.2 ⟨hordered, List.pairwise_singleton _ _, ?_⟩
      intro s hs s' hs'
      obtain rfl := List.mem_singleton.1 hs'
      exact addedBefore_concat ((h.present s).1 hs) (hnone hsku)
  · exact counts_addLine units_concat_itemAdded (fun s hs => units_concat_of_ne hs.symm) h.distinct
      (fun hsku => units_eq_zero (hnone hsku)) h.quantity
  · simpa using h.submitted

/-- An item that is removed has no line, and no additions after its last removal. -/
theorem itemRemoved (h : ClosedForm events o) (sku : String) :
    ClosedForm (events ++ [.itemRemoved sku])
      { o with lines := o.lines.filter fun l => l.sku != sku } := by
  have hskus : ({ o with lines := o.lines.filter fun l => l.sku != sku } : Order).skus =
      o.skus.filter (· != sku) := by
    rw [skus, skus, List.filter_map]
    rfl
  have hkept : ∀ s, s ≠ sku →
      additions s (events ++ [.itemRemoved sku]) = additions s events := fun s hs => by
    rw [additions_concat_itemRemoved, if_neg hs.symm]
  refine ⟨?_, ?_, ?_, ?_, ?_⟩
  · intro s
    rw [hskus, List.mem_filter, h.present s]
    by_cases hs : s = sku
    · simp [hs]
    · simp [hs, hkept s hs]
  · rw [hskus]
    exact h.distinct.filter _
  · rw [hskus]
    refine (h.ordered.filter _).imp_of_mem ?_
    intro s s' hs hs' hbefore
    have hne : ∀ t ∈ o.skus.filter (· != sku), t ≠ sku := fun t ht =>
      bne_iff_ne.1 (List.mem_filter.1 ht).2
    refine hbefore.of_prefix ?_ ?_
    · exact hkept s (hne s hs) ▸ List.prefix_rfl
    · exact hkept s' (hne s' hs') ▸ List.prefix_rfl
  · intro l hl
    obtain ⟨hl, hne⟩ := List.mem_filter.1 hl
    rw [units, hkept l.sku (bne_iff_ne.1 hne)]
    exact h.quantity l hl
  · simpa using h.submitted

/-- Closing an order leaves its lines as they are. -/
theorem orderSubmitted (h : ClosedForm events o) :
    ClosedForm (events ++ [.orderSubmitted]) { o with submitted := true } where
  present sku := by
    rw [additions_concat_orderSubmitted]
    exact h.present sku
  distinct := h.distinct
  ordered := by
    have hkept : ∀ s, additions s events <+: additions s (events ++ [.orderSubmitted]) := fun s =>
      additions_concat_orderSubmitted ▸ List.prefix_rfl
    exact h.ordered.imp fun hbefore => hbefore.of_prefix (hkept _) (hkept _)
  quantity l hl := by
    rw [units, additions_concat_orderSubmitted]
    exact h.quantity l hl
  submitted := by simp

/-- **Handling one more event** keeps to the closed form. -/
theorem step (h : ClosedForm events o) (hx : x.IsCurrent) :
    ∃ o', aggregate.apply o x = .ok o' ∧ ClosedForm (events ++ [x]) o' := by
  cases x with
  | itemAdded sku quantity => exact ⟨_, apply_itemAdded o sku quantity, h.itemAdded sku quantity⟩
  | itemRemoved sku => exact ⟨_, apply_itemRemoved o sku, h.itemRemoved sku⟩
  | orderSubmitted => exact ⟨_, apply_orderSubmitted o, h.orderSubmitted⟩
  | itemAddedV1 item => exact hx.elim
  | bulkItemsAdded items => exact hx.elim

theorem lines_eq (h : ClosedForm events o) : o.lines =
    o.skus.map fun sku => ⟨sku, UInt32.ofNat (min (2 ^ 32 - 1) (units sku events))⟩ := by
  rw [skus, List.map_map]
  refine (List.map_id o.lines).symm.trans (List.map_congr_left fun l hl => ?_)
  have hquantity : l.quantity = UInt32.ofNat (min (2 ^ 32 - 1) (units l.sku events)) := by
    rw [← h.quantity l hl, UInt32.ofNat_toNat]
  rw [Function.comp_apply, ← hquantity]
  rfl

/-- The closed form leaves nothing about the order open. -/
theorem unique {o' : Order} (h : ClosedForm events o) (h' : ClosedForm events o') : o = o' := by
  have hperm : o.skus.Perm o'.skus := by
    refine (List.perm_ext_iff_of_nodup h.distinct h'.distinct).2 fun sku => ?_
    rw [h.present sku, h'.present sku]
  have hskus : o.skus = o'.skus :=
    hperm.eq_of_pairwise (fun s s' _ _ hbefore hafter => (AddedBefore.asymm hbefore hafter).elim)
      h.ordered h'.ordered
  have hlines : o.lines = o'.lines := by rw [h.lines_eq, h'.lines_eq, hskus]
  have hsubmitted : o.submitted = o'.submitted :=
    Bool.eq_iff_iff.2 (h.submitted.trans h'.submitted.symm)
  cases o
  cases o'
  exact congrArg₂ Order.mk hlines hsubmitted

end ClosedForm

/-- **Replaying events that orders emit gives the closed form**, in whatever order they come. -/
theorem closedForm_of_current (events : List OrderEvent) (h : ∀ x ∈ events, x.IsCurrent) :
    ∃ o, aggregate.replay aggregate.initial events = .ok o ∧ ClosedForm events o := by
  induction events using List.reverseRecOn with
  | nil => exact ⟨_, rfl, .nil⟩
  | append_singleton events x ih =>
    obtain ⟨hevents, hx⟩ := List.forall_mem_append.1 h
    obtain ⟨o, hreplay, hclosed⟩ := ih hevents
    obtain ⟨o', happly, hclosed'⟩ := hclosed.step (hx x List.mem_cons_self)
    refine ⟨o', ?_, hclosed'⟩
    rw [Aggregate.replay_append _ hreplay, Aggregate.replay, happly]
    rfl

/-- An item that comes back after its removal has its line at the end, with the units added since;
units beyond the greatest number are lost, and a line may have none. -/
theorem closedForm_of_returned :
    ∃ o, aggregate.replay aggregate.initial [.itemAdded "X" 1, .itemAdded "Y" 2,
        .itemAdded "X" 4294967295, .orderSubmitted, .itemRemoved "Y", .itemAdded "Z" 0,
        .itemAdded "Y" 5] = .ok o ∧
      ClosedForm [.itemAdded "X" 1, .itemAdded "Y" 2, .itemAdded "X" 4294967295, .orderSubmitted,
        .itemRemoved "Y", .itemAdded "Z" 0, .itemAdded "Y" 5] o ∧
      o = ⟨[⟨"X", 4294967295⟩, ⟨"Z", 0⟩, ⟨"Y", 5⟩], true⟩ := by
  obtain ⟨o, hreplay, hclosed⟩ := closedForm_of_current [.itemAdded "X" 1, .itemAdded "Y" 2,
    .itemAdded "X" 4294967295, .orderSubmitted, .itemRemoved "Y", .itemAdded "Z" 0,
    .itemAdded "Y" 5] (by simp [OrderEvent.IsCurrent])
  exact ⟨o, hreplay, hclosed, Except.ok.inj (hreplay.symm.trans rfl)⟩

end Order

end EventLedger
