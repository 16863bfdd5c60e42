import EventLedger.Text.Blank
import EventLedger.OrderedMap

/-!
# Identities

Names of aggregates and of the event types that their streams hold.

## Main definitions

* `AggregateId` — the identifier of an aggregate, which is not blank.
* `StreamKey` — the name of a kind of aggregate and an identifier, the key of a stream.
* `EventType` — the name and the schema version of an event.
-/

namespace EventLedger

/-- The identifier of an aggregate: any text that is not blank, kept as it is. -/
structure AggregateId where
  /-- The text. -/
  value : String
  /-- The text is not blank. -/
  notBlank : Text.isBlank value = false
  deriving DecidableEq

namespace AggregateId

/-- The identifier with that text, unless it is blank. -/
def ofString? (s : String) : Option AggregateId :=
  if h : Text.isBlank s = false then some ⟨s, h⟩ else none

theorem ofString?_value (i : AggregateId) : ofString? i.value = some i := by
  simp [ofString?, i.notBlank]

theorem ofString?_eq_none_iff {s : String} : ofString? s = none ↔ Text.isBlank s = true := by
  simp [ofString?]

end AggregateId

/-- The key of a stream: the name of the kind of aggregate and the identifier of the aggregate. -/
structure StreamKey where
  /-- The name of the kind of aggregate. -/
  name : String
  /-- The aggregate. -/
  id : AggregateId
  deriving DecidableEq

namespace StreamKey

/-- Keys are ordered by name, then by identifier. -/
def order (a b : StreamKey) : Ordering :=
  (compare a.name b.name).then (compare a.id.value b.id.value)

instance : Ord StreamKey := ⟨order⟩

instance : Std.TransOrd StreamKey where
  eq_swap := by
    intro a b
    change order a b = (order b a).swap
    simp only [order, Ordering.swap_then]
    rw [@Std.OrientedCmp.eq_swap String compare _ a.name,
      @Std.OrientedCmp.eq_swap String compare _ a.id.value]
  isLE_trans := by
    intro a b c hab hbc
    change (order a c).isLE
    change (order a b).isLE at hab
    change (order b c).isLE at hbc
    simp only [order] at *
    have hn := @Std.TransCmp.isLE_trans String compare _ a.name b.name c.name
    have hi := @Std.TransCmp.isLE_trans String compare _ a.id.value b.id.value c.id.value
    have hlt := @Std.TransCmp.lt_trans String compare _ a.name b.name c.name
    have hle := @Std.TransCmp.lt_of_lt_of_eq String compare _ a.name b.name c.name
    have hel := @Std.TransCmp.lt_of_eq_of_lt String compare _ a.name b.name c.name
    have hee := @Std.TransCmp.eq_trans String compare _ a.name b.name c.name
    cases h1 : compare a.name b.name <;> cases h2 : compare b.name c.name <;>
      simp_all [Ordering.then]

instance : Std.LawfulEqOrd StreamKey where
  compare_self := by
    intro a
    change order a a = .eq
    simp [order]
  eq_of_compare := by
    intro a b h
    change order a b = .eq at h
    simp only [order, Ordering.then_eq_eq] at h
    obtain ⟨hn, hi⟩ := h
    have hn := Std.LawfulEqCmp.eq_of_compare hn
    have hi := Std.LawfulEqCmp.eq_of_compare hi
    rcases a with ⟨n, ⟨v, hv⟩⟩
    rcases b with ⟨m, ⟨w, hw⟩⟩
    simp_all

end StreamKey

/-- The name and the schema version of an event. -/
structure EventType where
  /-- The name. -/
  name : String
  /-- The version of the schema. -/
  version : Nat
  deriving DecidableEq, Repr, Inhabited

namespace EventType

/-- The type in messages, such as `ItemAdded@v2`. -/
def text (t : EventType) : String := s!"{t.name}@v{t.version}"

/-- Types are ordered by name, then by version. -/
def order (a b : EventType) : Ordering :=
  (compare a.name b.name).then (compare a.version b.version)

end EventType

end EventLedger
