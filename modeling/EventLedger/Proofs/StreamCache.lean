import EventLedger.Proofs.OrderedMap
import EventLedger.StreamCache

/-!
# Generations of cached streams

A cached stream is given out only while no invalidation or clearing has touched its key.  Getting
and keeping streams never change a generation; invalidating a key raises its own, and clearing
raises those of all keys.

## Main definitions

* `StreamCache.Stamped c` — no generation is beyond the counter.

## Main results

* `StreamCache.generation_get`, `StreamCache.generation_insert` — reading the cache and filling it
  keep every generation.
* `StreamCache.entry?_insert` — **a stream is kept only if its key has the generation it was read
  under.**
* `StreamCache.generation_invalidate`, `StreamCache.generation_clear` — what raises generations.
* `StreamCache.exists_keys` — the size is the number of keys with a stream.
-/

namespace EventLedger.StreamCache

variable {σ : Type} {c : StreamCache σ} {key key' : StreamKey} {now : Instant}

/-- No generation is beyond the counter. -/
def Stamped (c : StreamCache σ) : Prop := ∀ key, c.generation key ≤ c.counter

theorem compare_eq_iff : compare key key' = .eq ↔ key = key' :=
  Std.LawfulEqOrd.compare_eq_iff_eq

theorem get?_slots_insert (c : StreamCache σ) (key key' : StreamKey) (s : CacheSlot σ) :
    (c.slots.insert key s).get? key' = if key = key' then some s else c.slots.get? key' := by
  rw [OrderedMap.get?_insert]
  simp only [compare_eq_iff]

theorem stamped_empty (ttl : Duration) : (empty ttl : StreamCache σ).Stamped :=
  fun _ => Nat.le_refl _

@[simp] theorem entry?_empty (ttl : Duration) :
    StreamCache.entry? (empty ttl : StreamCache σ) key = none := rfl

/-! ### Getting and keeping -/

/-- What is given out was kept under the key. -/
theorem entry?_of_get {s : σ} (h : (c.get key now).1 = some s) :
    ∃ e, c.entry? key = some e ∧ e.stream = s := by
  unfold get at h
  unfold entry?
  split at h
  next e stamp hslot =>
    split at h
    · exact ⟨e, by simp [hslot], by simpa using h⟩
    · cases h
  next => cases h

theorem entry?_get {e : CacheEntry σ} (h : StreamCache.entry? (c.get key now).2 key' = some e) :
    c.entry? key' = some e := by
  unfold get at h
  split at h
  next e' stamp hslot =>
    split at h
    · exact h
    · -- an expired stream was dropped
      unfold entry? at h ⊢
      simp only [get?_slots_insert] at h
      split at h
      · cases h
      · exact h
  next => exact h

@[simp] theorem counter_get : (c.get key now).2.counter = c.counter := by
  unfold get
  split
  · split <;> rfl
  · rfl

@[simp] theorem generation_get : (c.get key now).2.generation key' = c.generation key' := by
  unfold get
  split
  next e stamp hslot =>
    split
    · rfl
    · unfold generation
      simp only [get?_slots_insert]
      split
      next heq =>
        subst heq
        rw [hslot]
        rfl
      next => rfl
  next => rfl

/-- **A stream is kept only if its key has the generation it was read under.** -/
theorem entry?_insert {g : Nat} {s : σ} {e : CacheEntry σ}
    (h : StreamCache.entry? (c.insert key g s now).2 key' = some e) :
    (key = key' ∧ c.generation key = g ∧ e.stream = s) ∨ c.entry? key' = some e := by
  unfold insert at h
  split at h
  next hg =>
    unfold entry? at h ⊢
    simp only [get?_slots_insert] at h
    split at h
    next heq =>
      simp only [Option.bind_some, Option.some.injEq] at h
      exact .inl ⟨heq, hg, by rw [← h]⟩
    next => exact .inr h
  next => exact .inr h

@[simp] theorem counter_insert {g : Nat} {s : σ} :
    (c.insert key g s now).2.counter = c.counter := by
  unfold insert
  split <;> rfl

@[simp] theorem generation_insert {g : Nat} {s : σ} :
    (c.insert key g s now).2.generation key' = c.generation key' := by
  unfold insert
  split
  next hg =>
    unfold generation at hg ⊢
    simp only [get?_slots_insert]
    split
    next heq =>
      subst heq
      cases hslot : c.slots.get? key with
      | some slot => rfl
      | none =>
        -- a key without a slot has the generation of the last clearing
        rw [hslot] at hg
        simp only [Option.map_none, Option.getD_none, Option.map_some, Option.getD_some] at hg ⊢
        omega
    next => rfl
  next => rfl

/-! ### Dropping -/

theorem entry?_invalidate {e : CacheEntry σ}
    (h : StreamCache.entry? (c.invalidate key) key' = some e) :
    key ≠ key' ∧ c.entry? key' = some e := by
  unfold invalidate entry? at *
  simp only [get?_slots_insert] at h
  split at h
  next => cases h
  next hne => exact ⟨hne, h⟩

@[simp] theorem counter_invalidate : (c.invalidate key).counter = c.counter + 1 := rfl

theorem generation_invalidate (h : c.Stamped) : (c.invalidate key).generation key' =
    if key = key' then c.counter + 1 else c.generation key' := by
  have hcleared : c.clearedAt ≤ c.counter := Nat.le_trans (Nat.le_max_right _ _) (h key)
  unfold invalidate generation
  simp only [get?_slots_insert]
  split
  · simp only [Option.map_some, Option.getD_some]
    omega
  · rfl

@[simp] theorem entry?_clear : c.clear.entry? key = none := rfl

@[simp] theorem counter_clear : c.clear.counter = c.counter + 1 := rfl

@[simp] theorem generation_clear : c.clear.generation key = c.counter + 1 := by
  unfold clear generation
  simp

/-! ### The counter -/

theorem Stamped.get (h : c.Stamped) : (c.get key now).2.Stamped := by
  intro k
  rw [generation_get, counter_get]
  exact h k

theorem Stamped.insert {g : Nat} {s : σ} (h : c.Stamped) : (c.insert key g s now).2.Stamped :=
  fun k => by
    rw [generation_insert, counter_insert]
    exact h k

theorem Stamped.invalidate (h : c.Stamped) : (c.invalidate key).Stamped := by
  intro k
  rw [generation_invalidate h, counter_invalidate]
  have := h k
  split <;> omega

theorem Stamped.clear : c.clear.Stamped := fun k => by simp

/-! ### What is kept after each operation -/

theorem fst_get_eq_some_iff {s : σ} : (c.get key now).1 = some s ↔
    ∃ expiry, c.entry? key = some ⟨s, expiry⟩ ∧ now.isBefore expiry = true := by
  unfold get entry?
  split
  next e stamp hslot =>
    rw [hslot, Option.bind_some]
    split
    next hnow =>
      constructor
      · rintro ⟨⟩
        exact ⟨e.expiresAt, rfl, hnow⟩
      · rintro ⟨expiry, he, -⟩
        obtain rfl := Option.some.inj he
        rfl
    next hnow =>
      constructor
      · rintro ⟨⟩
      · rintro ⟨expiry, he, hexpiry⟩
        obtain rfl := Option.some.inj he
        exact absurd hexpiry hnow
  next hslot =>
    constructor
    · rintro ⟨⟩
    · rintro ⟨expiry, he, -⟩
      obtain ⟨⟨entry, stamp⟩, hget, rfl⟩ := Option.bind_eq_some_iff.1 he
      exact absurd hget (hslot _ _)

/-- Getting drops the key's stream if it has expired. -/
theorem entry?_get_iff {e : CacheEntry σ} : StreamCache.entry? (c.get key now).2 key' = some e ↔
    c.entry? key' = some e ∧ (key = key' → now.isBefore e.expiresAt = true) := by
  unfold get entry?
  split
  next e' stamp hslot =>
    split
    next hnow =>
      refine (and_iff_left_of_imp fun he hkey => ?_).symm
      rw [← hkey, hslot] at he
      obtain rfl := Option.some.inj he
      exact hnow
    next hnow =>
      simp only [get?_slots_insert]
      split
      next hkey =>
        constructor
        · rintro ⟨⟩
        · rintro ⟨he, hexpiry⟩
          rw [← hkey, hslot] at he
          obtain rfl := Option.some.inj he
          exact absurd (hexpiry hkey) hnow
      next hkey => exact (and_iff_left fun h => absurd h hkey).symm
  next hslot =>
    refine (and_iff_left_of_imp fun he hkey => ?_).symm
    obtain ⟨⟨entry, stamp⟩, hget, rfl⟩ := Option.bind_eq_some_iff.1 he
    exact absurd (hkey ▸ hget) (hslot _ _)

theorem fst_insert_eq_true_iff {g : Nat} {s : σ} :
    (c.insert key g s now).1 = true ↔ c.generation key = g := by
  unfold insert
  split <;> simpa

/-- A stream that is kept takes the place of the one before. -/
theorem entry?_insert_iff {g : Nat} {s : σ} {e : CacheEntry σ} :
    StreamCache.entry? (c.insert key g s now).2 key' = some e ↔
      if key = key' ∧ (c.insert key g s now).1 = true then e = ⟨s, now.after c.ttl⟩
      else c.entry? key' = some e := by
  unfold insert
  split
  next hg =>
    unfold entry?
    simp only [get?_slots_insert, and_true]
    split
    · simp only [Option.bind_some, Option.some.injEq]
      exact eq_comm
    · rfl
  next => simp only [Bool.false_eq_true, and_false, if_false]

theorem entry?_invalidate_iff {e : CacheEntry σ} :
    StreamCache.entry? (c.invalidate key) key' = some e ↔ key ≠ key' ∧ c.entry? key' = some e := by
  constructor
  · exact entry?_invalidate
  · rintro ⟨hne, he⟩
    unfold invalidate entry?
    simp only [get?_slots_insert, if_neg hne]
    exact he

/-- The size is the number of keys with a stream. -/
theorem exists_keys (c : StreamCache σ) : ∃ keys : List StreamKey, keys.Nodup ∧
    (∀ key, key ∈ keys ↔ ∃ e, c.entry? key = some e) ∧ c.size = keys.length := by
  refine ⟨(c.slots.entries.filter (·.2.entry.isSome)).map (·.1), ?_, ?_, ?_⟩
  · rw [List.Nodup, List.pairwise_map]
    refine (c.slots.ascending.filter _).imp ?_
    intro a b hlt heq
    rw [heq, compare_eq_iff.2 rfl] at hlt
    cases hlt
  · intro key
    unfold entry?
    simp only [List.mem_map, List.mem_filter, Option.bind_eq_some_iff]
    constructor
    · rintro ⟨⟨k, slot⟩, ⟨hmem, hsome⟩, rfl⟩
      obtain ⟨e, he⟩ := Option.isSome_iff_exists.1 hsome
      exact ⟨e, slot, OrderedMap.mem_entries_iff.1 hmem, he⟩
    · rintro ⟨e, slot, hget, he⟩
      exact ⟨(key, slot), ⟨OrderedMap.mem_entries_iff.2 hget, Option.isSome_iff_exists.2 ⟨e, he⟩⟩,
        rfl⟩
  · rw [size, OrderedMap.values, List.filter_map, List.length_map, List.length_map]
    rfl

end EventLedger.StreamCache
