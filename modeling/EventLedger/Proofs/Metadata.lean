import EventLedger.Store

/-!
# The metadata of committed events

The metadata of a committed event begins with the reserved entries, and providers cannot touch
those, so the source that an event carries is the one that its update was called with.  What
providers add is taken as a whole or refused: their keys are distinct and none of them is reserved,
or they collide.

## Main definitions

* `AggregateStore.reservedEntries` — the bindings of the reserved entries.

## Main results

* `OrderedMap.get?_ofList` — in a map of a list of bindings, the first binding of a key counts.
* `Metadata.of_mergeAll_eq_ok` — **what it means that entries were added.**
* `Metadata.sourceId_mergeAll` — what providers add leaves the source alone.
* `AggregateStore.isReserved_of_reservedMetadata` — a store writes reserved entries only.
-/

namespace EventLedger

namespace OrderedMap

variable {κ β : Type} [Ord κ] [Std.TransOrd κ] [Std.LawfulEqOrd κ]

theorem get?_foldl_insert (k : κ) : ∀ (l : List (κ × β)) (m : OrderedMap κ β),
    (l.foldl (fun m e => if m.contains e.1 then m else m.insert e.1 e.2) m).get? k =
      (m.get? k).or ((l.find? fun e => compare e.1 k == .eq).map (·.2))
  | [], m => by simp
  | e :: l, m => by
    rw [List.foldl_cons, get?_foldl_insert k l]
    by_cases hk : compare e.1 k = .eq
    · obtain rfl : e.1 = k := Std.LawfulEqCmp.eq_of_compare hk
      rw [List.find?_cons_of_pos (by simp)]
      split
      next hc =>
        obtain ⟨v, hv⟩ := Option.isSome_iff_exists.1 hc
        rw [hv, Option.some_or, Option.some_or]
      next hc =>
        have hnone : m.get? e.1 = none := by simpa [contains] using hc
        rw [get?_insert_self, hnone, Option.some_or, Option.none_or, Option.map_some]
    · have hsame : (if m.contains e.1 then m else m.insert e.1 e.2).get? k = m.get? k := by
        split
        · rfl
        · rw [get?_insert, if_neg hk]
      rw [hsame, List.find?_cons_of_neg (by simpa using hk)]

/-- **The first binding of a key counts.** -/
theorem get?_ofList (k : κ) (l : List (κ × β)) :
    (ofList l).get? k = (l.find? fun e => compare e.1 k == .eq).map (·.2) := by
  rw [ofList, get?_foldl_insert, get?_empty, Option.none_or]

end OrderedMap

namespace Metadata

theorem get?_merge {key : String} (hkey : isReserved key = true) :
    ∀ (entries : List (String × String)) (m : Metadata), (m.merge entries).1.get? key = m.get? key
  | [], _ => rfl
  | e :: entries, m => by
    rw [merge]
    split
    · rfl
    next hfree =>
      rw [get?_merge hkey entries, OrderedMap.get?_insert, if_neg]
      intro heq
      obtain rfl : e.1 = key := Std.LawfulEqCmp.eq_of_compare heq
      exact hfree (by simp [hkey])

/-- Entries that were all added have distinct keys, none of them reserved or present before, and
they are all that was added. -/
theorem of_merge_eq_none : ∀ {entries : List (String × String)} {m : Metadata},
    (m.merge entries).2 = none →
      (entries.map (·.1)).Nodup ∧ (∀ e ∈ entries, isReserved e.1 = false ∧ m.get? e.1 = none) ∧
        ∀ k v, (m.merge entries).1.get? k = some v → m.get? k = some v ∨ (k, v) ∈ entries
  | [], m, _ => ⟨.nil, by simp, fun k v h => .inl h⟩
  | e :: entries, m, h => by
    rw [merge] at h ⊢
    split at h
    · cases h
    next hfree =>
      rw [if_neg hfree]
      simp only [Bool.or_eq_true, not_or, Bool.not_eq_true] at hfree
      have hnew : m.get? e.1 = none := by simpa [OrderedMap.contains] using hfree.2
      have hinsert : ∀ k, (OrderedMap.insert m e.1 e.2).get? k =
          if e.1 = k then some e.2 else m.get? k := by
        intro k
        simp only [OrderedMap.get?_insert, Std.LawfulEqOrd.compare_eq_iff_eq]
      obtain ⟨hnodup, hall, hmem⟩ := of_merge_eq_none h
      refine ⟨List.nodup_cons.2 ⟨?_, hnodup⟩, ?_, ?_⟩
      · intro hk
        obtain ⟨e', he', heq⟩ := List.mem_map.1 hk
        have hnone := (hall e' he').2
        rw [hinsert, if_pos heq.symm] at hnone
        cases hnone
      · intro e' he'
        rcases List.mem_cons.1 he' with rfl | he'
        · exact ⟨hfree.1, hnew⟩
        · obtain ⟨hreserved, hnone⟩ := hall e' he'
          rw [hinsert] at hnone
          split at hnone
          · cases hnone
          · exact ⟨hreserved, hnone⟩
      · intro k v hv
        rcases hmem k v hv with hv | hv
        · rw [hinsert] at hv
          split at hv
          next heq =>
            obtain rfl := Option.some.inj hv
            subst heq
            exact .inr List.mem_cons_self
          next => exact .inl hv
        · exact .inr (List.mem_cons_of_mem e hv)

/-- **What it means that entries were added**: their keys are distinct and none is reserved, the
reserved entries are as they were, and every other one was there before or is one of them. -/
theorem of_mergeAll_eq_ok {m m' : Metadata} {entries : List (String × String)}
    (h : m.mergeAll entries = .ok m') :
    ((entries.map (·.1)).Nodup ∧ ∀ e ∈ entries, isReserved e.1 = false) ∧
      (∀ k, isReserved k = true → m'.get? k = m.get? k) ∧
        ∀ k v, m'.get? k = some v → m.get? k = some v ∨ (k, v) ∈ entries := by
  unfold mergeAll at h
  split at h
  next hm =>
    obtain rfl := Except.ok.inj h
    have hmerge := of_merge_eq_none (congrArg Prod.snd hm)
    have hget : ∀ k, isReserved k = true → (m.merge entries).1.get? k = m.get? k :=
      fun k hk => get?_merge hk entries m
    rw [hm] at hmerge hget
    exact ⟨⟨hmerge.1, fun e he => (hmerge.2.1 e he).1⟩, hget, hmerge.2.2⟩
  next => cases h

/-- Entries that were not added collide. -/
theorem of_mergeAll_eq_error {m : Metadata} {entries : List (String × String)} {e : Error}
    (h : m.mergeAll entries = .error e) : ∃ key, e = .metadataCollision key := by
  unfold mergeAll at h
  split at h
  · cases h
  next key _ => exact ⟨key, (Except.error.inj h).symm⟩

/-- Entries with distinct keys are added if none of the keys is reserved or present. -/
theorem merge_eq_none : ∀ {entries : List (String × String)} {m : Metadata},
    (entries.map (·.1)).Nodup → (∀ e ∈ entries, isReserved e.1 = false ∧ m.get? e.1 = none) →
      (m.merge entries).2 = none
  | [], _, _, _ => rfl
  | e :: entries, m, hnodup, hfree => by
    obtain ⟨hnew, hnodup⟩ := List.nodup_cons.1 hnodup
    obtain ⟨⟨hreserved, hnone⟩, hfree⟩ := List.forall_mem_cons.1 hfree
    have hadd : (isReserved e.1 || m.contains e.1) = false := by
      simp [hreserved, hnone, OrderedMap.contains]
    rw [merge, if_neg (Bool.eq_false_iff.1 hadd)]
    refine merge_eq_none hnodup fun e' he' => ⟨(hfree e' he').1, ?_⟩
    rw [OrderedMap.get?_insert, if_neg, (hfree e' he').2]
    intro heq
    have hkey : e.1 = e'.1 := Std.LawfulEqCmp.eq_of_compare heq
    exact hnew (List.mem_map.2 ⟨e', he', hkey.symm⟩)

theorem mergeAll_eq_ok {m : Metadata} {entries : List (String × String)}
    (hnodup : (entries.map (·.1)).Nodup)
    (hfree : ∀ e ∈ entries, isReserved e.1 = false ∧ m.get? e.1 = none) :
    m.mergeAll entries = .ok (m.merge entries).1 := by
  have hnone := merge_eq_none hnodup hfree
  unfold mergeAll
  split
  next m' hm => rw [hm]
  next m' key hm =>
    rw [hm] at hnone
    cases hnone

/-- What providers add leaves the source alone. -/
theorem sourceId_mergeAll {m m' : Metadata} {entries : List (String × String)}
    (h : m.mergeAll entries = .ok m') : m'.sourceId = m.sourceId :=
  (of_mergeAll_eq_ok h).2.1 sourceIdKey rfl

theorem isConflict_of_mergeAll {m : Metadata} {entries : List (String × String)} {e : Error}
    (h : m.mergeAll entries = .error e) : e.isConflict = false := by
  obtain ⟨key, rfl⟩ := of_mergeAll_eq_error h
  rfl

end Metadata

namespace AggregateStore

variable (key : StreamKey) (sequence : Nat) (event : EventType) (timestamp : String)
  (batchId : Uuid) (source : Option String)

/-- The bindings of the reserved entries. -/
def reservedEntries : List (String × String) :=
  [(Metadata.aggregateIdKey, key.id.value), (Metadata.aggregateNameKey, key.name),
    (Metadata.sequenceKey, toString sequence), (Metadata.eventNameKey, event.name),
    (Metadata.eventVersionKey, toString event.version), (Metadata.timestampKey, timestamp),
    (Metadata.batchIdKey, batchId.text)] ++ (source.map fun s => (Metadata.sourceIdKey, s)).toList

theorem get?_reservedMetadata (k : String) :
    (reservedMetadata key sequence event timestamp batchId source).get? k =
      ((reservedEntries key sequence event timestamp batchId source).find? fun e =>
        decide (e.1 = k)).map (·.2) := by
  have hcompare : ∀ a b : String, (compare a b == .eq) = decide (a = b) := by
    intro a b
    rw [Bool.eq_iff_iff, beq_iff_eq, decide_eq_true_iff, Std.LawfulEqOrd.compare_eq_iff_eq]
  have hentries := OrderedMap.get?_ofList k
    (reservedEntries key sequence event timestamp batchId source)
  simp only [hcompare] at hentries
  exact hentries

/-- The reserved entries hold the source of the update. -/
theorem sourceId_reservedMetadata :
    (reservedMetadata key sequence event timestamp batchId source).sourceId = source := by
  rw [Metadata.sourceId, get?_reservedMetadata]
  cases source <;> rfl

/-- The reserved entries are all reserved. -/
theorem isReserved_of_reservedMetadata {k v : String}
    (h : (reservedMetadata key sequence event timestamp batchId source).get? k = some v) :
    Metadata.isReserved k = true := by
  rw [get?_reservedMetadata] at h
  obtain ⟨e, he, -⟩ := Option.map_eq_some_iff.1 h
  obtain rfl : e.1 = k := by simpa only [decide_eq_true_eq] using List.find?_some he
  have hall : ((reservedEntries key sequence event timestamp batchId source).map (·.1)).all
      Metadata.isReserved = true := by
    cases source <;> rfl
  exact List.all_eq_true.1 hall e.1 (List.mem_map_of_mem (List.mem_of_find?_eq_some he))

end AggregateStore

end EventLedger
