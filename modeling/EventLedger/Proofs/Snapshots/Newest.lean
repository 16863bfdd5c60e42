import EventLedger.Proofs.MemoryStorage
import EventLedger.Proofs.OrderedMap
import Mathlib.Data.List.Induction
import Mathlib.Data.List.Pairwise

/-!
# The newest snapshot

Writers bring snapshots as they get round to it, so an older one may come after a newer one.  The
shelf compares numbers and keeps the greater one, and of two with the same number the one that came
first.  What it holds for an aggregate is therefore a function of the list of snapshots that were
brought for it since its snapshots were last deleted: the first of those with the greatest number.

Comparing numbers is taking a maximum, so snapshots with distinct numbers may come in any order; and
those of other aggregates do not meet them at all.

## Main definitions

* `Snapshot.newer`, `Snapshot.newest` — the newer of two snapshots, and the newest of a list.
* `Snapshot.IsNewest` — the first of the snapshots with the greatest number.
* `StorageRequest.brought` — the snapshots of an aggregate since its last deletion.
* `MemoryStorage.loadAfter`, `MemoryStorage.KeepsNewest` — what the shelf holds after a run of
  requests.

## Main results

* `Snapshot.newest_eq_some_iff` — comparing one by one finds the first with the greatest number.
* `SnapshotShelf.load_store`, `SnapshotShelf.load_delete` — what each request does to the shelf.
* `SnapshotShelf.store_comm` — snapshots with distinct numbers may come in any order.
* `MemoryStorage.load_run` — the shelf after a run of requests.
* `MemoryStorage.keepsNewest` — **the shelf holds the newest snapshot, in whatever order they come.**
-/

namespace EventLedger

variable {x y : Snapshot} {xs ys : List Snapshot} {key : StreamKey} {qs : List StorageRequest}

/-! ### The newest of a list -/

namespace Snapshot

/-- The newer of two snapshots; of two with the same number the one that was there. -/
def newer (current : Option Snapshot) (x : Snapshot) : Option Snapshot :=
  match current with
  | some c => if c.sequence < x.sequence then some x else some c
  | none => some x

/-- The newest of the snapshots, compared one by one. -/
def newest (xs : List Snapshot) : Option Snapshot := xs.foldl newer none

/-- The first of the snapshots with the greatest number. -/
def IsNewest (xs : List Snapshot) (x : Snapshot) : Prop :=
  ∃ earlier later, xs = earlier ++ x :: later ∧ (∀ y ∈ earlier, y.sequence < x.sequence) ∧
    ∀ y ∈ later, y.sequence ≤ x.sequence

theorem newest_concat (xs : List Snapshot) (y : Snapshot) :
    newest (xs ++ [y]) = newer (newest xs) y := by
  rw [newest, List.foldl_append]
  rfl

theorem IsNewest.mem (h : IsNewest xs x) : x ∈ xs := by
  obtain ⟨earlier, later, rfl, -, -⟩ := h
  exact List.mem_append_right earlier List.mem_cons_self

theorem IsNewest.le (h : IsNewest xs x) : ∀ y ∈ xs, y.sequence ≤ x.sequence := by
  obtain ⟨earlier, later, rfl, hearlier, hlater⟩ := h
  intro y hy
  rcases List.mem_append.1 hy with hy | hy
  · exact Nat.le_of_lt (hearlier y hy)
  · rcases List.mem_cons.1 hy with rfl | hy
    · exact Nat.le_refl _
    · exact hlater y hy

/-- The first of the snapshots with the greatest number stays it, or an even greater one has come. -/
theorem isNewest_concat_iff : IsNewest (xs ++ [y]) x ↔
    IsNewest xs x ∧ y.sequence ≤ x.sequence ∨ x = y ∧ ∀ z ∈ xs, z.sequence < y.sequence := by
  constructor
  · rintro ⟨earlier, later, heq, hearlier, hlater⟩
    rcases List.eq_nil_or_concat later with rfl | ⟨later, z, rfl⟩
    · obtain ⟨rfl, hxy⟩ := List.append_inj' heq rfl
      cases hxy
      exact .inr ⟨rfl, hearlier⟩
    · rw [List.concat_eq_append, ← List.cons_append, ← List.append_assoc] at heq
      obtain ⟨rfl, hyz⟩ := List.append_inj' heq rfl
      cases hyz
      rw [List.concat_eq_append] at hlater
      refine .inl ⟨⟨earlier, later, rfl, hearlier, ?_⟩, hlater y (by simp)⟩
      exact fun z hz => hlater z (List.mem_append_left _ hz)
  · rintro (⟨⟨earlier, later, rfl, hearlier, hlater⟩, hle⟩ | ⟨rfl, hall⟩)
    · refine ⟨earlier, later ++ [y], by simp, hearlier, ?_⟩
      intro z hz
      rcases List.mem_append.1 hz with hz | hz
      · exact hlater z hz
      · rwa [List.mem_singleton.1 hz]
    · exact ⟨xs, [], rfl, hall, by simp⟩

theorem newer_ne_none (current : Option Snapshot) (x : Snapshot) : newer current x ≠ none := by
  cases current with
  | none => exact Option.some_ne_none x
  | some c =>
    simp only [newer]
    split <;> exact Option.some_ne_none _

theorem newest_eq_none_iff : newest xs = none ↔ xs = [] := by
  rcases List.eq_nil_or_concat xs with rfl | ⟨xs, y, rfl⟩
  · simp [newest]
  · rw [List.concat_eq_append, newest_concat]
    simp [newer_ne_none]

/-- **Comparing one by one finds the first with the greatest number.** -/
theorem newest_eq_some_iff : newest xs = some x ↔ IsNewest xs x := by
  induction xs using List.reverseRecOn generalizing x with
  | nil => simp [newest, IsNewest]
  | append_singleton xs y ih =>
    rw [newest_concat, isNewest_concat_iff]
    cases hnewest : newest xs with
    | none =>
      obtain rfl := newest_eq_none_iff.1 hnewest
      simp [newer, IsNewest, eq_comm]
    | some c =>
      have hc : IsNewest xs c := ih.1 hnewest
      have hunique : IsNewest xs x ↔ c = x := by rw [← ih, hnewest, Option.some_inj]
      rw [hunique]
      simp only [newer]
      split
      next hlt =>
        rw [Option.some_inj]
        constructor
        · rintro rfl
          exact .inr ⟨rfl, fun z hz => Nat.lt_of_le_of_lt (hc.le z hz) hlt⟩
        · rintro (⟨rfl, hle⟩ | ⟨rfl, -⟩)
          · exact absurd hlt (Nat.not_lt.2 hle)
          · rfl
      next hle =>
        rw [Option.some_inj]
        constructor
        · rintro rfl
          exact .inl ⟨rfl, Nat.le_of_not_lt hle⟩
        · rintro (⟨rfl, -⟩ | ⟨rfl, hall⟩)
          · rfl
          · exact absurd (hall c hc.mem) hle

/-- Of snapshots with distinct numbers, the one with the greatest is the newest. -/
theorem isNewest_iff_of_nodup (hxs : (xs.map (·.sequence)).Nodup) :
    IsNewest xs x ↔ x ∈ xs ∧ ∀ y ∈ xs, y.sequence ≤ x.sequence := by
  constructor
  · intro h
    exact ⟨h.mem, h.le⟩
  · rintro ⟨hmem, hall⟩
    obtain ⟨earlier, later, rfl⟩ := List.append_of_mem hmem
    refine ⟨earlier, later, rfl, ?_, fun y hy => hall y (by simp [hy])⟩
    intro y hy
    rw [List.map_append, List.nodup_append] at hxs
    have hne : y.sequence ≠ x.sequence :=
      hxs.2.2 _ (List.mem_map_of_mem hy) _ (by simp)
    exact Nat.lt_of_le_of_ne (hall y (by simp [hy])) hne

/-- **The newest of snapshots with distinct numbers does not depend on their order.** -/
theorem newest_eq_of_perm (hperm : ys.Perm xs) (hxs : (xs.map (·.sequence)).Nodup) :
    newest ys = newest xs := by
  have hys : (ys.map (·.sequence)).Nodup := (hperm.map _).nodup_iff.2 hxs
  ext x
  rw [newest_eq_some_iff, newest_eq_some_iff, isNewest_iff_of_nodup hys, isNewest_iff_of_nodup hxs]
  simp only [hperm.mem_iff]

/-- Two comparisons may be made in either order if the numbers differ. -/
theorem newer_comm (current : Option Snapshot) (hne : x.sequence ≠ y.sequence) :
    newer (newer current x) y = newer (newer current y) x := by
  cases current with
  | none =>
    simp only [newer]
    split <;> split <;> first | rfl | omega
  | some c =>
    by_cases hx : c.sequence < x.sequence <;> by_cases hy : c.sequence < y.sequence
    · simp only [newer, if_pos hx, if_pos hy]
      split <;> split <;> first | rfl | omega
    · have hxy : ¬x.sequence < y.sequence := by omega
      simp only [newer, if_pos hx, if_neg hy, if_neg hxy]
    · have hyx : ¬y.sequence < x.sequence := by omega
      simp only [newer, if_neg hx, if_pos hy, if_neg hyx]
    · simp only [newer, if_neg hx, if_neg hy]

end Snapshot

open Snapshot (newer newest newest_concat IsNewest newest_eq_some_iff newest_eq_none_iff)

/-! ### The shelf -/

namespace SnapshotShelf

variable (shelf : SnapshotShelf)

/-- **Bringing a snapshot** compares it with the one of its aggregate that is there. -/
theorem load_store (x : Snapshot) (key : StreamKey) :
    (shelf.store x).load key =
      if x.key = key then newer (shelf.load key) x else shelf.load key := by
  have hinsert : OrderedMap.get? (shelf.newest.insert x.key x) key =
      if x.key = key then some x else shelf.load key := by
    rw [OrderedMap.get?_insert]
    simp only [Std.LawfulEqCmp.compare_eq_iff_eq]
    rfl
  unfold store
  by_cases hkey : x.key = key
  · subst hkey
    rw [if_pos rfl] at hinsert ⊢
    cases hload : shelf.load x.key with
    | none => exact hinsert
    | some c =>
      simp only [newer]
      split
      · exact hinsert
      · exact hload
  · rw [if_neg hkey] at hinsert ⊢
    split
    · split
      · exact hinsert
      · rfl
    · exact hinsert

/-- Bringing a snapshot changes nothing, or it puts the snapshot at its place. -/
theorem load_store_cases (x : Snapshot) (key : StreamKey) :
    (shelf.store x).load key = shelf.load key ∨
      x.key = key ∧ (shelf.store x).load key = some x := by
  rw [load_store]
  split
  next hkey =>
    cases shelf.load key with
    | none => exact .inr ⟨hkey, rfl⟩
    | some c =>
      simp only [newer]
      split
      · exact .inr ⟨hkey, rfl⟩
      · exact .inl rfl
  next => exact .inl rfl

theorem load_delete (key key' : StreamKey) :
    (shelf.delete key).load key' = if key = key' then none else shelf.load key' := by
  have hkey : compare key key' = .eq ↔ key = key' := Std.LawfulEqCmp.compare_eq_iff_eq
  simp only [load, delete, OrderedMap.get?_erase, hkey]

variable {shelf} in
/-- Shelves that hold the same for every aggregate are equal. -/
theorem ext_load {shelf' : SnapshotShelf} (h : ∀ key, shelf.load key = shelf'.load key) :
    shelf = shelf' := by
  obtain ⟨m⟩ := shelf
  obtain ⟨m'⟩ := shelf'
  exact congrArg SnapshotShelf.mk (OrderedMap.ext_get? h)

/-- **Snapshots with distinct numbers may come in any order**, and those of different aggregates
anyway. -/
theorem store_comm (h : x.key = y.key → x.sequence ≠ y.sequence) :
    (shelf.store x).store y = (shelf.store y).store x := by
  refine ext_load fun key => ?_
  simp only [load_store]
  by_cases hx : x.key = key <;> by_cases hy : y.key = key
  · simp only [if_pos hx, if_pos hy]
    exact Snapshot.newer_comm _ (h (hx.trans hy.symm))
  · simp only [if_pos hx, if_neg hy]
  · simp only [if_neg hx, if_pos hy]
  · simp only [if_neg hx, if_neg hy]

end SnapshotShelf

/-! ### Runs of requests -/

namespace StorageRequest

/-- The snapshots of an aggregate since its last deletion, with one more request. -/
def bring (key : StreamKey) (xs : List Snapshot) : StorageRequest → List Snapshot
  | .storeSnapshot x => if x.key = key then xs ++ [x] else xs
  | .deleteSnapshots key' => if key' = key then [] else xs
  | _ => xs

/-- The snapshots that the requests bring for an aggregate after its snapshots were last deleted, in
the order in which they come. -/
def brought (key : StreamKey) (qs : List StorageRequest) : List Snapshot := qs.foldl (bring key) []

theorem brought_concat (key : StreamKey) (qs : List StorageRequest) (q : StorageRequest) :
    brought key (qs ++ [q]) = bring key (brought key qs) q := by
  rw [brought, List.foldl_append]
  rfl

/-- As long as its snapshots are not deleted, an aggregate gets more of them. -/
theorem prefix_brought {qs' : List StorageRequest} (h : .deleteSnapshots key ∉ qs') :
    brought key qs <+: brought key (qs ++ qs') := by
  induction qs' using List.reverseRecOn with
  | nil => exact (List.append_nil qs).symm ▸ List.prefix_rfl
  | append_singleton qs' q ih =>
    rw [List.mem_append, not_or] at h
    have hstep : brought key (qs ++ qs') <+: bring key (brought key (qs ++ qs')) q := by
      cases q with
      | storeSnapshot x =>
        rw [bring]
        split
        · exact List.prefix_append _ _
        · exact List.prefix_rfl
      | deleteSnapshots key' =>
        have hkey : key' ≠ key := by
          rintro rfl
          exact h.2 (List.mem_singleton_self _)
        have hsame : bring key (brought key (qs ++ qs')) (.deleteSnapshots key') = _ :=
          if_neg hkey
        exact hsame.symm ▸ List.prefix_rfl
      | _ => exact List.prefix_rfl
    rw [← List.append_assoc, brought_concat]
    exact (ih h.1).trans hstep

end StorageRequest

open StorageRequest (bring brought brought_concat prefix_brought)

namespace MemoryStorage

/-- The reply to reading the snapshot of an aggregate after a run of requests. -/
def loadAfter (qs : List StorageRequest) (key : StreamKey) : Except Error (Option Snapshot) :=
  ((run {} qs).serve (.loadSnapshot key)).1

/-- What the shelf holds after a run of requests. -/
structure KeepsNewest (qs : List StorageRequest) : Prop where
  /-- Of the snapshots that were brought for an aggregate since its last deletion, it holds the first
  with the greatest number, -/
  newest : ∀ key x, loadAfter qs key = .ok (some x) ↔ IsNewest (brought key qs) x
  /-- and it holds none if and only if none was brought. -/
  none : ∀ key, loadAfter qs key = .ok none ↔ brought key qs = []
  /-- Until its next deletion, the number of an aggregate's snapshot does not decrease. -/
  rises : ∀ before after key x, qs = before ++ after → .deleteSnapshots key ∉ after →
    loadAfter before key = .ok (some x) →
    ∃ y, loadAfter qs key = .ok (some y) ∧ x.sequence ≤ y.sequence
  /-- Snapshots that come one after the other may come in any order if the numbers of each aggregate
  are distinct; -/
  anyOrder : ∀ before (xs ys : List Snapshot) after, qs = before ++ xs.map .storeSnapshot ++ after →
    ys.Perm xs → xs.Pairwise (fun x y => x.key = y.key → x.sequence ≠ y.sequence) →
    run {} (before ++ ys.map .storeSnapshot ++ after) = run {} qs
  /-- and whatever else comes between them, the newest is the same if the same were brought. -/
  determined : ∀ qs' key, (brought key qs').Perm (brought key qs) →
    ((brought key qs).map (·.sequence)).Nodup → loadAfter qs' key = loadAfter qs key

variable {m : MemoryStorage}

/-- A request changes the snapshot of an aggregate as it changes the newest of those brought. -/
theorem load_serve (h : m.shelf.load key = newest xs) (q : StorageRequest) :
    (m.serve q).2.shelf.load key = newest (bring key xs q) := by
  cases q with
  | storeSnapshot x =>
    change (m.shelf.store x).load key = _
    rw [SnapshotShelf.load_store, bring, h]
    split
    · rw [newest_concat]
    · rfl
  | deleteSnapshots key' =>
    change (m.shelf.delete key').load key = _
    rw [SnapshotShelf.load_delete, bring, h]
    split <;> rfl
  | _ => exact h

/-- **The shelf after a run of requests.** -/
theorem load_run (qs : List StorageRequest) (key : StreamKey) :
    (run {} qs).shelf.load key = newest (brought key qs) := by
  induction qs using List.reverseRecOn with
  | nil => rfl
  | append_singleton qs q ih =>
    have hlast : run {} (qs ++ [q]) = ((run {} qs).serve q).2 := run_append {} qs [q]
    rw [hlast, brought_concat]
    exact load_serve ih q

/-- Snapshots that come one after the other change the shelf only. -/
theorem run_storeSnapshots (m : MemoryStorage) (xs : List Snapshot) :
    m.run (xs.map .storeSnapshot) = { m with shelf := xs.foldl .store m.shelf } := by
  induction xs generalizing m with
  | nil => rfl
  | cons x xs ih => exact ih (m.serve (.storeSnapshot x)).2

/-- Snapshots that come one after the other, with distinct numbers for each aggregate, may come in
any order. -/
theorem run_storeSnapshots_perm (m : MemoryStorage) (hperm : ys.Perm xs)
    (hdistinct : xs.Pairwise fun x y => x.key = y.key → x.sequence ≠ y.sequence) :
    m.run (ys.map .storeSnapshot) = m.run (xs.map .storeSnapshot) := by
  have hcomm : ∀ x ∈ xs, ∀ y ∈ xs, ∀ shelf : SnapshotShelf,
      (shelf.store x).store y = (shelf.store y).store x := by
    intro x hx y hy shelf
    by_cases heq : x = y
    · rw [heq]
    · refine shelf.store_comm ?_
      have hsymm : Std.Symm fun x y : Snapshot => x.key = y.key → x.sequence ≠ y.sequence :=
        ⟨fun x y h hkey => (h hkey.symm).symm⟩
      exact hdistinct.forall hx hy heq
  rw [run_storeSnapshots, run_storeSnapshots, hperm.symm.foldl_eq' hcomm]

/-- **The shelf holds the newest snapshot of every aggregate, in whatever order they come.** -/
theorem keepsNewest (qs : List StorageRequest) : KeepsNewest qs := by
  have hload : ∀ qs key, loadAfter qs key = .ok (newest (brought key qs)) :=
    fun qs key => congrArg Except.ok (load_run qs key)
  constructor
  case newest =>
    intro key x
    rw [hload, Except.ok.injEq, newest_eq_some_iff]
  case none =>
    intro key
    rw [hload, Except.ok.injEq, newest_eq_none_iff]
  case rises =>
    rintro before after key x rfl hkept hbefore
    rw [hload, Except.ok.injEq, newest_eq_some_iff] at hbefore
    -- what was brought before is brought still
    have hprefix : brought key before <+: brought key (before ++ after) := prefix_brought hkept
    have hx : x ∈ brought key (before ++ after) := hprefix.subset hbefore.mem
    cases hnewest : newest (brought key (before ++ after)) with
    | none => rw [newest_eq_none_iff.1 hnewest] at hx; cases hx
    | some y =>
      refine ⟨y, by rw [hload, hnewest], ?_⟩
      exact (newest_eq_some_iff.1 hnewest).le x hx
  case anyOrder =>
    rintro before xs ys after rfl hperm hdistinct
    simp only [run_append, run_storeSnapshots_perm _ hperm hdistinct]
  case determined =>
    intro qs' key hperm hdistinct
    rw [hload, hload, Snapshot.newest_eq_of_perm hperm hdistinct]

end MemoryStorage

end EventLedger
