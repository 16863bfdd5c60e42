import EventLedger.Proofs.Call.Trace
import EventLedger.Proofs.Metadata
import EventLedger.Proofs.OrderedMap

/-!
# Merging what providers add

The pairs of all providers are added one after the other, up to the first that collides: its key is
reserved, was present before, or is that of a pair before it.  Whether there is such a pair does not
depend on the order of the pairs, and neither does the result if there is none; the order decides
only which pair is the first to collide.

## Main definitions

* `Metadata.Mergeable m entries` — none of the pairs collides.
* `Metadata.Collides m before key` — a pair with that key collides after the pairs `before`.
* `Metadata.Gains m entries m'` — `m'` has the entries of `m` and the pairs, and no others.
* `MetadataProvider.provided` — the pairs of all providers.

## Main results

* `Metadata.merge_eq_none_iff` — all pairs are added if none of them collides.
* `Metadata.merge_perm` — the order of the pairs does not matter then.
* `Metadata.exists_collision` — otherwise the pairs before the first that collides are added.
* `MetadataProvider.merges_provided` — **what merging the pairs of providers does.**
-/

namespace EventLedger

open Call (Traces)

namespace Metadata

/-- None of the pairs collides with the entries of `m`, with a reserved key, or with another pair. -/
structure Mergeable (m : Metadata) (entries : List (String × String)) : Prop where
  distinct : (entries.map (·.1)).Nodup
  free : ∀ e ∈ entries, isReserved e.1 = false
  new : ∀ e ∈ entries, m.get? e.1 = none

/-- A pair with that key collides after the pairs `before`: the key is reserved, or present before
the merge, or that of one of those pairs. -/
def Collides (m : Metadata) (before : List (String × String)) (key : String) : Prop :=
  isReserved key = true ∨ (∃ v, m.get? key = some v) ∨ key ∈ before.map (·.1)

/-- The metadata `m'` have the entries of `m` and the pairs, and no others. -/
def Gains (m : Metadata) (entries : List (String × String)) (m' : Metadata) : Prop :=
  ∀ k v, m'.get? k = some v ↔ m.get? k = some v ∨ (k, v) ∈ entries

variable {m m' m'' : Metadata} {entries entries' : List (String × String)} {e : String × String}
  {key : String}

theorem get?_insert_iff (hnew : m.get? e.1 = none) (k v : String) :
    (OrderedMap.insert m e.1 e.2).get? k = some v ↔ m.get? k = some v ∨ (k, v) = e := by
  rw [OrderedMap.get?_insert]
  by_cases hk : compare e.1 k = .eq
  · obtain rfl : e.1 = k := Std.LawfulEqCmp.eq_of_compare hk
    rw [if_pos hk, hnew]
    constructor
    · rintro ⟨⟩
      exact .inr rfl
    · rintro (h | h)
      · cases h
      · exact congrArg some (congrArg Prod.snd h).symm
  · rw [if_neg hk]
    refine (or_iff_left ?_).symm
    rintro rfl
    exact hk Std.ReflCmp.compare_self

/-! ### Pairs of which none collides -/

theorem mergeable_iff : Mergeable m entries ↔
    (entries.map (·.1)).Nodup ∧ ∀ e ∈ entries, isReserved e.1 = false ∧ m.get? e.1 = none :=
  ⟨fun h => ⟨h.distinct, fun e he => ⟨h.free e he, h.new e he⟩⟩,
    fun h => ⟨h.1, fun e he => (h.2 e he).1, fun e he => (h.2 e he).2⟩⟩

/-- **All pairs are added if none of them collides.** -/
theorem merge_eq_none_iff : (m.merge entries).2 = none ↔ Mergeable m entries := by
  rw [mergeable_iff]
  constructor
  · intro h
    obtain ⟨hdistinct, hall, -⟩ := of_merge_eq_none h
    exact ⟨hdistinct, hall⟩
  · rintro ⟨hdistinct, hall⟩
    exact merge_eq_none hdistinct hall

/-- The pairs after the first one are merged into what that one leaves. -/
theorem Mergeable.cons_iff : Mergeable m (e :: entries) ↔
    (isReserved e.1 || m.contains e.1) = false ∧
      Mergeable (OrderedMap.insert m e.1 e.2) entries := by
  rw [← merge_eq_none_iff, merge]
  cases h : isReserved e.1 || m.contains e.1 with
  | false => simp [← merge_eq_none_iff]
  | true => simp

/-- What is there after all pairs were added. -/
theorem Mergeable.gains (h : Mergeable m entries) : Gains m entries (m.merge entries).1 := by
  induction entries generalizing m with
  | nil =>
    intro k v
    simp [merge]
  | cons e entries ih =>
    obtain ⟨hfree, hrest⟩ := Mergeable.cons_iff.1 h
    intro k v
    rw [merge, hfree, if_neg Bool.false_ne_true, ih hrest k v,
      get?_insert_iff (h.new e List.mem_cons_self), List.mem_cons, or_assoc]

theorem Mergeable.perm (h : Mergeable m entries) (hperm : entries.Perm entries') :
    Mergeable m entries' where
  distinct := (hperm.map _).nodup_iff.1 h.distinct
  free e he := h.free e (hperm.mem_iff.2 he)
  new e he := h.new e (hperm.mem_iff.2 he)

theorem Gains.unique (h : Gains m entries m') (h' : Gains m entries' m'')
    (hperm : entries.Perm entries') : m' = m'' := by
  refine OrderedMap.ext_get? fun k => Option.ext fun v => ?_
  rw [h k v, h' k v, hperm.mem_iff]

/-- **The order of the pairs does not matter** if none of them collides. -/
theorem merge_perm (h : Mergeable m entries) (hperm : entries.Perm entries') :
    m.merge entries' = m.merge entries := by
  have h' := h.perm hperm
  refine Prod.ext (h'.gains.unique h.gains hperm.symm) ?_
  rw [merge_eq_none_iff.2 h', merge_eq_none_iff.2 h]

/-! ### The first pair that collides -/

theorem collides_insert (hnew : m.get? e.1 = none)
    (h : Collides (OrderedMap.insert m e.1 e.2) entries key) : Collides m (e :: entries) key := by
  rcases h with hreserved | ⟨v, hv⟩ | hrepeat
  · exact .inl hreserved
  · rcases (get?_insert_iff hnew key v).1 hv with hv | rfl
    · exact .inr (.inl ⟨v, hv⟩)
    · exact .inr (.inr List.mem_cons_self)
  · exact .inr (.inr (List.mem_cons_of_mem _ hrepeat))

/-- **The first pair that collides** ends the merge: the pairs before it are added, and nothing
after it. -/
theorem exists_collision (h : (m.merge entries).2 = some key) :
    ∃ before v after, entries = before ++ (key, v) :: after ∧ Collides m before key ∧
      m.merge before = ((m.merge entries).1, none) := by
  induction entries generalizing m with
  | nil => cases h
  | cons e entries ih =>
    rw [merge] at h ⊢
    cases hcollides : isReserved e.1 || m.contains e.1 with
    | true =>
      rw [hcollides, if_pos rfl] at h
      obtain rfl := Option.some.inj h
      refine ⟨[], e.2, entries, rfl, ?_, rfl⟩
      exact (Bool.or_eq_true_iff.1 hcollides).imp_right fun hc => .inl (OrderedMap.contains_iff.1 hc)
    | false =>
      rw [hcollides, if_neg Bool.false_ne_true] at h
      have hnew : m.get? e.1 = none := by
        simpa [OrderedMap.contains] using (Bool.or_eq_false_iff.1 hcollides).2
      obtain ⟨before, v, after, rfl, hkey, hbefore⟩ := ih h
      refine ⟨e :: before, v, after, rfl, collides_insert hnew hkey, ?_⟩
      rw [merge, hcollides, if_neg Bool.false_ne_true, if_neg Bool.false_ne_true, hbefore]

/-! ### Merging -/

theorem mergeAll_eq_ok_iff : m.mergeAll entries = .ok m' ↔
    Mergeable m entries ∧ m' = (m.merge entries).1 := by
  rw [← merge_eq_none_iff]
  unfold mergeAll
  split
  next m₁ hm => simp [hm, eq_comm]
  next m₁ key hm => simp [hm]

theorem mergeAll_eq_error_iff {err : Error} : m.mergeAll entries = .error err ↔
    ∃ key, (m.merge entries).2 = some key ∧ err = .metadataCollision key := by
  unfold mergeAll
  split
  next m₁ hm => simp [hm]
  next m₁ key hm => simp [hm, eq_comm]

/-- What merging pairs into metadata does. -/
structure Merges (m : Metadata) (entries : List (String × String)) : Prop where
  /-- It succeeds if none of the pairs collides. -/
  succeeds : (∃ m', m.mergeAll entries = .ok m') ↔ Mergeable m entries
  /-- The metadata then have the entries that they had and the pairs, and no others. -/
  complete : ∀ m', m.mergeAll entries = .ok m' → m' = (m.merge entries).1 ∧ Gains m entries m'
  /-- Otherwise the failure names the key of the first pair that collides, and the metadata have the
  pairs before it besides the entries that they had. -/
  stops : ∀ err, m.mergeAll entries = .error err → ∃ before key v after,
    entries = before ++ (key, v) :: after ∧ err = .metadataCollision key ∧
      Mergeable m before ∧ Collides m before key ∧ Gains m before (m.merge entries).1
  /-- Entries that were there are there, as they were. -/
  keeps : ∀ k v, m.get? k = some v → (m.merge entries).1.get? k = some v

theorem merges (m : Metadata) (entries : List (String × String)) : Merges m entries := by
  have hstops : ∀ err, m.mergeAll entries = .error err → ∃ before key v after,
      entries = before ++ (key, v) :: after ∧ err = .metadataCollision key ∧
        Mergeable m before ∧ Collides m before key ∧ Gains m before (m.merge entries).1 := by
    intro err h
    obtain ⟨key, hkey, rfl⟩ := mergeAll_eq_error_iff.1 h
    obtain ⟨before, v, after, hentries, hcollides, hbefore⟩ := exists_collision hkey
    have hmergeable : Mergeable m before := merge_eq_none_iff.1 (congrArg Prod.snd hbefore)
    have hgains := hmergeable.gains
    rw [hbefore] at hgains
    exact ⟨before, key, v, after, hentries, rfl, hmergeable, hcollides, hgains⟩
  refine ⟨?_, ?_, hstops, ?_⟩
  · simp [mergeAll_eq_ok_iff]
  · intro m' h
    obtain ⟨hmergeable, rfl⟩ := mergeAll_eq_ok_iff.1 h
    exact ⟨rfl, hmergeable.gains⟩
  · intro k v hv
    cases hresult : m.mergeAll entries with
    | ok m' =>
      obtain ⟨hmergeable, -⟩ := mergeAll_eq_ok_iff.1 hresult
      exact (hmergeable.gains k v).2 (.inl hv)
    | error err =>
      obtain ⟨before, key, _, after, -, -, -, -, hgains⟩ := hstops err hresult
      exact (hgains k v).2 (.inl hv)

end Metadata

/-! ### Providers -/

namespace MetadataProvider

variable {σ ε : Type}

/-- The pairs of all providers, each asked with an identifier of its own. -/
def provided (context : EventContext) (asked : List (MetadataProvider × Uuid)) :
    List (String × String) :=
  asked.flatMap fun p => p.1.entries p.2 context

/-- A store asks all providers, each with a fresh identifier. -/
theorem traces_providedEntries (context : EventContext) :
    ∀ asked : List (MetadataProvider × Uuid),
    Traces (AggregateStore.providedEntries context (asked.map (·.1)) :
        StoreCall σ ε (List (String × String)))
      (asked.map fun p => ⟨.freshId, p.2⟩) (.ok (provided context asked))
  | [] => .done []
  | p :: asked => by
    refine Call.traces_ask_bind_iff.2 ⟨p.2, _, rfl, ?_⟩
    refine Call.traces_bind_iff.2 (.inl ⟨_, _, [], ?_, traces_providedEntries context asked, ?_⟩)
    · rw [List.append_nil]
    · exact .done _

/-- **What merging the pairs of providers does.**  The order of the providers, and of the pairs of
one of them, does not matter unless there is a collision. -/
theorem merges_provided (context : EventContext) (asked : List (MetadataProvider × Uuid))
    (m : Metadata) :
    Traces (AggregateStore.providedEntries context (asked.map (·.1)) :
        StoreCall σ ε (List (String × String)))
      (asked.map fun p => ⟨.freshId, p.2⟩) (.ok (provided context asked)) ∧
    m.Merges (provided context asked) ∧
    ∀ asked' entries, asked'.Perm asked → entries.Perm (provided context asked') →
      m.Mergeable (provided context asked) →
      m.merge entries = m.merge (provided context asked) := by
  refine ⟨traces_providedEntries context asked, m.merges _, ?_⟩
  intro asked' entries hasked hentries hmergeable
  have hperm : (provided context asked').Perm (provided context asked) := hasked.flatMap_right _
  exact Metadata.merge_perm hmergeable (hentries.trans hperm).symm

-- The pairs of the second provider come too late.
example (fresh : Uuid) (context : EventContext) : (Metadata.merge OrderedMap.empty (provided context
    [(fixed [("region", "eu"), ("tenant", "a"), ("region", "us")], fresh),
      (fixed [("host", "b")], fresh)])).2 = some "region" := rfl

end MetadataProvider

end EventLedger
