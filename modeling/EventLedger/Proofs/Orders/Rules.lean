import EventLedger.Orders.Store
import EventLedger.Proofs.Reading
import Mathlib.Data.List.Nodup

/-!
# The rules of orders

What a command does to an order is one event, and whether it is accepted depends on nothing but the
order that it meets.  The rules keep an order well kept: each item has one line, and no line is
without units.  They let no event follow the one that submits the order.

## Main definitions

* `OrderCommand.event` — the event that a command stands for.
* `Order.Allows o x` — the order may emit the event.
* `Order.WellKept lines` — each item has one line, with a positive number of units.

## Main results

* `OrderCommand.decide_eq_ok_iff` — **a command is accepted if the order allows its event.**
* `Order.Allows.exists_apply` — what an event does that is allowed.
-/

namespace EventLedger

/-- The event that a command stands for. -/
def OrderCommand.event : OrderCommand → OrderEvent
  | .add sku quantity => .itemAdded sku quantity
  | .remove sku => .itemRemoved sku
  | .submit => .orderSubmitted

namespace Order

/-- The order, as it is, may emit the event. -/
def Allows (o : Order) : OrderEvent → Prop
  | .itemAdded _ quantity => o.submitted = false ∧ quantity ≠ 0
  | .itemRemoved sku => o.submitted = false ∧ sku ∈ o.skus
  | .orderSubmitted => o.submitted = false ∧ o.lines ≠ []
  | .itemAddedV1 _ => False
  | .bulkItemsAdded _ => False

/-- Each item has one line, with a positive number of units. -/
structure WellKept (lines : List OrderLine) : Prop where
  distinct : (lines.map (·.sku)).Nodup
  positive : ∀ l ∈ lines, 1 ≤ l.quantity

theorem wellKept_nil : WellKept [] := ⟨List.nodup_nil, fun _ hl => absurd hl List.not_mem_nil⟩

end Order

/-! ### Commands -/

/-- A change that is refused unless the order is open and a condition holds. -/
theorem OrderRoot.guarded_eq_ok_iff {r r' : OrderRoot} {p : Prop} [Decidable p] {e : Error}
    {x : OrderEvent} :
    (do
        r.ensureOpen
        if p then throw e
        r.record x : Except Error OrderRoot) = .ok r' ↔
      (r.state.submitted = false ∧ ¬p) ∧ r.record x = .ok r' := by
  unfold ensureOpen
  cases hsubmitted : r.state.submitted
  · by_cases hp : p
    · simp [hp, bind, Except.bind, throw, throwThe, MonadExceptOf.throw]
    · simp [hp, bind, Except.bind]
  · simp [bind, Except.bind]

/-- **A command is accepted if the order allows its event**, which it emits then. -/
theorem OrderCommand.decide_eq_ok_iff {command : OrderCommand} {r r' : OrderRoot} :
    command.decide r = .ok r' ↔
      r.state.Allows command.event ∧ r.emit Order.aggregate command.event = .ok r' := by
  cases command with
  | add sku quantity => exact OrderRoot.guarded_eq_ok_iff
  | remove sku =>
    have hsku : sku ∈ r.state.skus ↔ ¬(!(r.state.lines.any fun l => l.sku == sku)) = true := by
      simp only [Order.skus, List.mem_map, Bool.not_eq_true', Bool.not_eq_false,
        List.any_eq_true, beq_iff_eq]
    rw [event, Order.Allows, hsku]
    exact OrderRoot.guarded_eq_ok_iff
  | submit =>
    rw [event, Order.Allows, Ne, ← List.isEmpty_iff]
    exact OrderRoot.guarded_eq_ok_iff

/-- Commands change an order by emitting events only. -/
theorem OrderCommand.emits {command : OrderCommand} {r r' : OrderRoot}
    (h : command.decide r = .ok r') : Root.Emits Order.aggregate r r' :=
  .emit .refl (decide_eq_ok_iff.1 h).2

namespace Order

variable {o : Order} {x : OrderEvent} {sku : String} {quantity : UInt32}
  {lines : List OrderLine}

/-! ### Events -/

theorem apply_itemAdded (o : Order) (sku : String) (quantity : UInt32) :
    aggregate.apply o (.itemAdded sku quantity) =
      .ok { o with lines := addLine sku quantity o.lines } := rfl

theorem apply_itemRemoved (o : Order) (sku : String) :
    aggregate.apply o (.itemRemoved sku) =
      .ok { o with lines := o.lines.filter fun l => l.sku != sku } := rfl

theorem apply_orderSubmitted (o : Order) :
    aggregate.apply o .orderSubmitted = .ok { o with submitted := true } := rfl

/-- The event that submits an order is the only one of its type. -/
theorem type_eq_orderSubmittedType_iff :
    x.type = OrderEvent.orderSubmittedType ↔ x = .orderSubmitted := by
  cases x <;> simp [OrderEvent.type, OrderEvent.orderSubmittedType, OrderEvent.itemAddedType,
    OrderEvent.itemAddedV1Type, OrderEvent.bulkItemsAddedType, OrderEvent.itemRemovedType]

/-- Numbers of units are added up to the greatest one. -/
theorem toNat_addQuantity (a b : UInt32) :
    (addQuantity a b).toNat = min greatestQuantity.toNat (a.toNat + b.toNat) := by
  have hgreatest : greatestQuantity.toNat = 4294967295 := rfl
  unfold addQuantity
  split
  · omega
  · rw [UInt32.toNat_add]
    omega

theorem one_le_addQuantity {a b : UInt32} (ha : 1 ≤ a) : 1 ≤ addQuantity a b := by
  have hgreatest : greatestQuantity.toNat = 4294967295 := rfl
  have hone : (1 : UInt32).toNat = 1 := rfl
  rw [UInt32.le_iff_toNat_le] at ha ⊢
  rw [toNat_addQuantity]
  omega

/-- Adding units keeps the lines, or puts a new one at the end. -/
theorem map_sku_addLine : ∀ lines : List OrderLine,
    (addLine sku quantity lines).map (·.sku) =
      if sku ∈ lines.map (·.sku) then lines.map (·.sku) else lines.map (·.sku) ++ [sku]
  | [] => rfl
  | l :: rest => by
    rw [addLine]
    by_cases hsku : l.sku = sku
    · subst hsku
      simp
    · rw [if_neg hsku, List.map_cons, map_sku_addLine rest]
      by_cases hrest : sku ∈ rest.map (·.sku)
      · rw [if_pos hrest, List.map_cons, if_pos (List.mem_cons_of_mem _ hrest)]
      · have hnot : sku ∉ (l :: rest).map (·.sku) := by
          rw [List.map_cons, List.mem_cons, not_or]
          exact ⟨Ne.symm hsku, hrest⟩
        rw [if_neg hrest, if_neg hnot]
        rfl

/-- Adding units gives no item a second line. -/
theorem nodup_map_sku_addLine (h : (lines.map (·.sku)).Nodup) :
    ((addLine sku quantity lines).map (·.sku)).Nodup := by
  rw [map_sku_addLine]
  split
  · exact h
  next hnot => exact List.nodup_append.2 ⟨h, List.nodup_singleton _, by grind⟩

theorem WellKept.addLine (h : WellKept lines) (hquantity : 1 ≤ quantity) :
    WellKept (addLine sku quantity lines) where
  distinct := nodup_map_sku_addLine h.distinct
  positive := by
    have hpositive := h.positive
    clear h
    induction lines with
    | nil =>
      intro l hl
      rw [List.mem_singleton.1 hl]
      exact hquantity
    | cons l rest ih =>
      obtain ⟨hfirst, hrest⟩ := List.forall_mem_cons.1 hpositive
      rw [Order.addLine]
      split
      · exact List.forall_mem_cons.2 ⟨one_le_addQuantity hfirst, hrest⟩
      · exact List.forall_mem_cons.2 ⟨hfirst, ih hrest⟩

theorem WellKept.filter (h : WellKept lines) (p : OrderLine → Bool) :
    WellKept (lines.filter p) where
  distinct := h.distinct.sublist (List.filter_sublist.map _)
  positive l hl := h.positive l (List.mem_filter.1 hl).1

/-- An order that allows an event is open. -/
theorem Allows.open (h : o.Allows x) : o.submitted = false := by
  cases x with
  | itemAdded sku quantity => exact h.1
  | itemRemoved sku => exact h.1
  | orderSubmitted => exact h.1
  | itemAddedV1 item => exact h.elim
  | bulkItemsAdded items => exact h.elim

/-- **What an event does that is allowed**: the order stays well kept, and it is submitted by the one
event only that says so. -/
theorem Allows.exists_apply (h : o.Allows x) : ∃ o', aggregate.apply o x = .ok o' ∧
    (WellKept o.lines → WellKept o'.lines) ∧ o'.submitted = decide (x = .orderSubmitted) := by
  have hopen := h.open
  cases x with
  | itemAdded sku quantity =>
    have hquantity : quantity ≠ 0 := h.2
    exact ⟨_, apply_itemAdded o sku quantity, fun hkept => hkept.addLine (by grind), hopen⟩
  | itemRemoved sku => exact ⟨_, apply_itemRemoved o sku, fun hkept => hkept.filter _, hopen⟩
  | orderSubmitted => exact ⟨_, apply_orderSubmitted o, id, rfl⟩
  | itemAddedV1 item => exact h.elim
  | bulkItemsAdded items => exact h.elim

end Order

end EventLedger
