/-!
# Ordered maps

A finite map kept as the list of its entries in strictly ascending order of the keys.  The order is
part of the type, so two maps with the same bindings are equal and every enumeration is sorted.

## Main definitions

* `OrderedMap` — the maps, with `get?`, `insert`, `erase` and `atLeast`.
* `OrderedMap.ofList` — the map of a list of bindings, where the first binding of a key counts.

## Main results

* `get?_insert`, `get?_erase` — what each operation does to a look-up.
-/

namespace EventLedger

/-- A finite map from `κ` to `β`, listed in strictly ascending order of the keys. -/
structure OrderedMap (κ β : Type) [Ord κ] where
  /-- The bindings in ascending order. -/
  entries : List (κ × β)
  /-- Each key is below the keys after it. -/
  ascending : entries.Pairwise fun a b => compare a.1 b.1 = .lt

namespace OrderedMap

variable {κ β γ : Type} [Ord κ]

/-- The map with no binding. -/
def empty : OrderedMap κ β := ⟨[], .nil⟩

instance : Inhabited (OrderedMap κ β) := ⟨empty⟩

instance [BEq κ] [BEq β] : BEq (OrderedMap κ β) := ⟨fun m n => m.entries == n.entries⟩

instance [DecidableEq κ] [DecidableEq β] : DecidableEq (OrderedMap κ β) := fun m n =>
  if h : m.entries = n.entries then
    .isTrue (by cases m; cases n; simp_all)
  else
    .isFalse (by intro hmn; exact h (by rw [hmn]))

/-- The keys in ascending order. -/
def keys (m : OrderedMap κ β) : List κ := m.entries.map (·.1)

/-- The values in ascending order of their keys. -/
def values (m : OrderedMap κ β) : List β := m.entries.map (·.2)

/-- The number of bindings. -/
def size (m : OrderedMap κ β) : Nat := m.entries.length

/-- The value bound to `k`. -/
def get? (m : OrderedMap κ β) (k : κ) : Option β :=
  (m.entries.find? fun e => compare e.1 k == .eq).map (·.2)

/-- Whether `k` is bound. -/
def contains (m : OrderedMap κ β) (k : κ) : Bool := (m.get? k).isSome

/-- The entries with `k` bound to `v`, at the place the order gives it. -/
def insertEntry (k : κ) (v : β) : List (κ × β) → List (κ × β)
  | [] => [(k, v)]
  | e :: rest =>
    match compare k e.1 with
    | .lt => (k, v) :: e :: rest
    | .eq => (k, v) :: rest
    | .gt => e :: insertEntry k v rest

theorem mem_of_mem_insertEntry {k : κ} {v : β} {l : List (κ × β)} {e : κ × β}
    (h : e ∈ insertEntry k v l) : e = (k, v) ∨ e ∈ l := by
  induction l with
  | nil => simpa [insertEntry] using h
  | cons a rest ih =>
    rw [insertEntry] at h
    split at h <;> grind

theorem pairwise_insertEntry [Std.TransOrd κ] [Std.LawfulEqOrd κ] {k : κ} {v : β}
    {l : List (κ × β)} (h : l.Pairwise fun a b => compare a.1 b.1 = .lt) :
    (insertEntry k v l).Pairwise fun a b => compare a.1 b.1 = .lt := by
  induction l with
  | nil => simp [insertEntry]
  | cons a rest ih =>
    obtain ⟨ha, hrest⟩ := List.pairwise_cons.1 h
    rw [insertEntry]
    split
    next hk =>
      refine List.pairwise_cons.2 ⟨fun e he => ?_, h⟩
      rcases List.mem_cons.1 he with rfl | he
      · exact hk
      · exact Std.TransCmp.lt_trans hk (ha e he)
    next hk =>
      have : k = a.1 := Std.LawfulEqCmp.eq_of_compare hk
      exact List.pairwise_cons.2 ⟨fun e he => by simpa [this] using ha e he, hrest⟩
    next hk =>
      refine List.pairwise_cons.2 ⟨fun e he => ?_, ih hrest⟩
      rcases mem_of_mem_insertEntry he with rfl | he
      · exact Std.OrientedCmp.gt_iff_lt.1 hk
      · exact ha e he

/-- The map with `k` bound to `v`, whatever it was bound to before. -/
def insert [Std.TransOrd κ] [Std.LawfulEqOrd κ] (m : OrderedMap κ β) (k : κ) (v : β) :
    OrderedMap κ β :=
  ⟨insertEntry k v m.entries, pairwise_insertEntry m.ascending⟩

/-- The map of the bindings that satisfy `p`. -/
def filter (m : OrderedMap κ β) (p : κ → β → Bool) : OrderedMap κ β :=
  ⟨m.entries.filter fun e => p e.1 e.2, m.ascending.filter _⟩

/-- The map without a binding of `k`. -/
def erase (m : OrderedMap κ β) (k : κ) : OrderedMap κ β :=
  m.filter fun k' _ => compare k' k != .eq

/-- The values of the keys that are `k` or above it, in ascending order. -/
def atLeast (m : OrderedMap κ β) (k : κ) : List β :=
  (m.entries.filter fun e => compare e.1 k != .lt).map (·.2)

/-- The map of a list of bindings, where the first binding of a key counts. -/
def ofList [Std.TransOrd κ] [Std.LawfulEqOrd κ] (l : List (κ × β)) : OrderedMap κ β :=
  l.foldl (fun m e => if m.contains e.1 then m else m.insert e.1 e.2) empty

@[simp] theorem get?_empty (k : κ) : (empty : OrderedMap κ β).get? k = none := rfl

theorem find?_insertEntry [Std.TransOrd κ] [Std.LawfulEqOrd κ] (k k' : κ) (v : β)
    (l : List (κ × β)) :
    ((insertEntry k v l).find? fun e => compare e.1 k' == .eq) =
      if compare k k' = .eq then some (k, v) else l.find? fun e => compare e.1 k' == .eq := by
  induction l with
  | nil => simp only [insertEntry, List.find?_cons]; split <;> simp_all
  | cons a rest ih =>
    rw [insertEntry]
    split
    next => simp only [List.find?_cons]; split <;> simp_all
    next hk =>
      have : k = a.1 := Std.LawfulEqCmp.eq_of_compare hk
      simp only [List.find?_cons, ← this]; split <;> simp_all
    next hk =>
      simp only [List.find?_cons, ih]
      split
      next ha =>
        have hc : compare a.1 k' = .eq := by simpa using ha
        have : a.1 = k' := Std.LawfulEqCmp.eq_of_compare hc
        have hne : compare k k' ≠ .eq := by rw [← this, hk]; simp
        simp [hne]
      next => rfl

theorem get?_insert [Std.TransOrd κ] [Std.LawfulEqOrd κ] (m : OrderedMap κ β) (k k' : κ) (v : β) :
    (m.insert k v).get? k' = if compare k k' = .eq then some v else m.get? k' := by
  simp only [get?, insert, find?_insertEntry]
  split <;> rfl

@[simp] theorem get?_insert_self [Std.TransOrd κ] [Std.LawfulEqOrd κ] (m : OrderedMap κ β) (k : κ)
    (v : β) : (m.insert k v).get? k = some v := by
  simp [get?_insert]

theorem get?_erase [Std.TransOrd κ] [Std.LawfulEqOrd κ] (m : OrderedMap κ β) (k k' : κ) :
    (m.erase k).get? k' = if compare k k' = .eq then none else m.get? k' := by
  simp only [get?, erase, filter]
  split
  next h =>
    have : k = k' := Std.LawfulEqCmp.eq_of_compare h
    subst this
    rw [List.find?_eq_none.2]
    · rfl
    · intro e he
      have := (List.mem_filter.1 he).2
      simpa using this
  next h =>
    congr 1
    induction m.entries with
    | nil => rfl
    | cons a rest ih =>
      by_cases ha : compare a.1 k = .eq
      · have : a.1 = k := Std.LawfulEqCmp.eq_of_compare ha
        rw [List.filter_cons_of_neg (by simp [ha]), ih, List.find?_cons_of_neg]
        simpa [this] using h
      · rw [List.filter_cons_of_pos (by simpa using ha), List.find?_cons, List.find?_cons, ih]

end OrderedMap

end EventLedger
