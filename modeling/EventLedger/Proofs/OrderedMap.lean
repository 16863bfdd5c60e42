import EventLedger.OrderedMap
import Mathlib.Data.List.Sort

/-!
# The entries of ordered maps

A map is its list of entries: looking a key up tells whether the entry is in the list, and an
operation whose place in the order is known works on the list as on any other.

## Main results

* `OrderedMap.mem_entries_iff` — **an entry is in the list if looking its key up yields it.**
* `OrderedMap.ext_get?` — maps in which every key is bound alike are equal.
* `OrderedMap.entries_foldl_insert`, `OrderedMap.entries_foldl_erase` — entries beyond the last key
  are put at the end, and erasing keys filters the entries.
* `OrderedMap.ofList_entries` — a map is the map of its entries.
-/

namespace EventLedger.OrderedMap

variable {κ β γ : Type} [Ord κ]

theorem eq_of_entries {m m' : OrderedMap κ β} (h : m.entries = m'.entries) : m = m' := by
  cases m
  cases m'
  simp_all

/-- An entry whose key is beyond all keys is put at the end. -/
theorem insertEntry_of_gt {k : κ} {v : β} : ∀ {l : List (κ × β)},
    (∀ e ∈ l, compare k e.1 = .gt) → insertEntry k v l = l ++ [(k, v)]
  | [], _ => rfl
  | e :: rest, h => by
    rw [insertEntry, h e (by simp)]
    simp only [List.cons_append]
    rw [insertEntry_of_gt fun e' he' => h e' (by simp [he'])]

theorem contains_iff {m : OrderedMap κ β} {k : κ} : m.contains k = true ↔ ∃ v, m.get? k = some v :=
  Option.isSome_iff_exists

variable [Std.LawfulEqOrd κ] {m : OrderedMap κ β} {k : κ} {v : β}

/-- Distinct entries have distinct keys. -/
theorem eq_of_mem_entries {e e' : κ × β} (he : e ∈ m.entries) (he' : e' ∈ m.entries)
    (hk : e.1 = e'.1) : e = e' := by
  by_contra hne
  obtain ⟨i, hi, rfl⟩ := List.getElem_of_mem he
  obtain ⟨j, hj, rfl⟩ := List.getElem_of_mem he'
  have hlt : ∀ {i j : Nat} (hi : i < m.entries.length) (hj : j < m.entries.length), i < j →
      m.entries[i].1 ≠ m.entries[j].1 := by
    intro i j hi hj hij heq
    have := List.pairwise_iff_getElem.1 m.ascending i j hi hj hij
    simp [heq] at this
  rcases Nat.lt_trichotomy i j with hij | rfl | hji
  · exact hlt hi hj hij hk
  · exact hne rfl
  · exact hlt hj hi hji hk.symm

/-- **An entry is in the list if looking its key up yields it.** -/
theorem mem_entries_iff : (k, v) ∈ m.entries ↔ m.get? k = some v := by
  have hfind : ∀ e, (m.entries.find? fun e => compare e.1 k == .eq) = some e →
      e ∈ m.entries ∧ e.1 = k := by
    intro e he
    have hk : compare e.1 k = .eq := by simpa only [beq_iff_eq] using List.find?_some he
    exact ⟨List.mem_of_find?_eq_some he, Std.LawfulEqCmp.eq_of_compare hk⟩
  constructor
  · intro h
    obtain ⟨e, he⟩ : ∃ e, (m.entries.find? fun e => compare e.1 k == .eq) = some e := by
      rw [← Option.isSome_iff_exists, List.find?_isSome]
      exact ⟨(k, v), h, by simp⟩
    obtain ⟨hmem, hk⟩ := hfind e he
    obtain rfl := eq_of_mem_entries hmem h hk
    rw [get?, he, Option.map_some]
  · intro h
    obtain ⟨e, he, rfl⟩ := Option.map_eq_some_iff.1 h
    obtain ⟨hmem, rfl⟩ := hfind e he
    exact hmem

theorem mem_values_iff : v ∈ m.values ↔ ∃ k, m.get? k = some v := by
  unfold values
  rw [List.mem_map]
  constructor
  · rintro ⟨e, he, rfl⟩
    exact ⟨e.1, mem_entries_iff.1 he⟩
  · rintro ⟨k, h⟩
    exact ⟨(k, v), mem_entries_iff.2 h, rfl⟩

theorem get?_filter (m : OrderedMap κ β) (p : κ → β → Bool) (k : κ) :
    (m.filter p).get? k = (m.get? k).filter (p k) := by
  ext v
  have hmem : (k, v) ∈ (m.filter p).entries ↔ (k, v) ∈ m.entries ∧ p k v = true := List.mem_filter
  rw [← mem_entries_iff, hmem, mem_entries_iff, Option.filter_eq_some_iff]

variable [Std.TransOrd κ]

/-- **Maps in which every key is bound alike are equal.** -/
theorem ext_get? {m m' : OrderedMap κ β} (h : ∀ k, m.get? k = m'.get? k) : m = m' := by
  let below : κ × β → κ × β → Prop := fun a b => compare a.1 b.1 = .lt
  have hirrefl : Std.Irrefl below := ⟨fun a ha => by simp [below] at ha⟩
  have hantisymm : Std.Antisymm below := by
    constructor
    intro a b hab hba
    have hgt : compare b.1 a.1 = .gt := Std.OrientedCmp.gt_iff_lt.2 hab
    rw [show compare b.1 a.1 = .lt from hba] at hgt
    cases hgt
  have hmem : ∀ e, e ∈ m.entries ↔ e ∈ m'.entries := by
    intro e
    rw [mem_entries_iff (k := e.1) (v := e.2), mem_entries_iff, h]
  exact eq_of_entries (List.Pairwise.eq_of_mem_iff (r := below) m.ascending m'.ascending hmem)

/-! ### Many entries -/

theorem entries_foldl_insert {f : γ → κ} {g : γ → β} : ∀ {l : List γ} {m : OrderedMap κ β},
    (∀ e ∈ m.entries, ∀ x ∈ l, compare e.1 (f x) = .lt) →
    l.Pairwise (fun x y => compare (f x) (f y) = .lt) →
    (l.foldl (fun m x => m.insert (f x) (g x)) m).entries =
      m.entries ++ l.map fun x => (f x, g x)
  | [], m, _, _ => by simp
  | x :: l, m, hm, hl => by
    obtain ⟨hx, hl⟩ := List.pairwise_cons.1 hl
    have hentries : (m.insert (f x) (g x)).entries = m.entries ++ [(f x, g x)] :=
      insertEntry_of_gt fun e he => Std.OrientedCmp.gt_iff_lt.2 (hm e he x List.mem_cons_self)
    rw [List.foldl_cons, entries_foldl_insert _ hl, hentries, List.append_assoc]
    · rfl
    · intro e he y hy
      rw [hentries, List.mem_append, List.mem_singleton] at he
      rcases he with he | rfl
      · exact hm e he y (List.mem_cons_of_mem x hy)
      · exact hx y hy

theorem get?_foldl_insert_of_forall_ne {f : γ → κ} {g : γ → β} :
    ∀ {l : List γ} {m : OrderedMap κ β}, (∀ x ∈ l, f x ≠ k) →
    (l.foldl (fun m x => m.insert (f x) (g x)) m).get? k = m.get? k
  | [], _, _ => rfl
  | x :: l, m, h => by
    rw [List.foldl_cons, get?_foldl_insert_of_forall_ne fun y hy => h y (List.mem_cons_of_mem x hy),
      get?_insert, if_neg]
    exact fun hx => h x List.mem_cons_self (Std.LawfulEqCmp.eq_of_compare hx)

theorem get?_foldl_insert_of_mem {f : γ → κ} {g : γ → β} {x : γ} :
    ∀ {l : List γ} {m : OrderedMap κ β}, x ∈ l → (l.map f).Nodup →
    (l.foldl (fun m x => m.insert (f x) (g x)) m).get? (f x) = some (g x)
  | y :: l, m, hx, hl => by
    rw [List.map_cons, List.nodup_cons] at hl
    rw [List.foldl_cons]
    rcases List.mem_cons.1 hx with rfl | hx
    · rw [get?_foldl_insert_of_forall_ne, get?_insert_self]
      exact fun z hz hfz => hl.1 (hfz ▸ List.mem_map_of_mem hz)
    · exact get?_foldl_insert_of_mem hx hl.2

omit [Std.TransOrd κ] [Std.LawfulEqOrd κ] in
theorem entries_foldl_erase {f : γ → κ} : ∀ {l : List γ} {m : OrderedMap κ β},
    (l.foldl (fun m x => m.erase (f x)) m).entries =
      m.entries.filter fun e => l.all fun x => compare e.1 (f x) != .eq
  | [], m => by simp
  | x :: l, m => by
    rw [List.foldl_cons, entries_foldl_erase]
    simp only [erase, filter, List.filter_filter, List.all_cons]
    exact List.filter_congr fun e _ => Bool.and_comm _ _

/-- A map is the map of its entries. -/
theorem ofList_entries (m : OrderedMap κ β) : ofList m.entries = m := by
  suffices h : ∀ (l : List (κ × β)) (m : OrderedMap κ β),
      (∀ e ∈ m.entries, ∀ x ∈ l, compare e.1 x.1 = .lt) →
      l.Pairwise (fun x y => compare x.1 y.1 = .lt) →
      (l.foldl (fun m e => if m.contains e.1 then m else m.insert e.1 e.2) m).entries =
        m.entries ++ l by
    exact eq_of_entries (h m.entries empty (by simp [empty]) m.ascending)
  intro l
  induction l with
  | nil => intro m _ _; simp
  | cons x l ih =>
    intro m hm hl
    obtain ⟨hx, hl⟩ := List.pairwise_cons.1 hl
    have hfree : m.contains x.1 = false := by
      rw [Bool.eq_false_iff, Ne, contains_iff]
      rintro ⟨v, hv⟩
      simpa using hm _ (mem_entries_iff.2 hv) x List.mem_cons_self
    have hentries : (m.insert x.1 x.2).entries = m.entries ++ [x] :=
      insertEntry_of_gt fun e he => Std.OrientedCmp.gt_iff_lt.2 (hm e he x List.mem_cons_self)
    rw [List.foldl_cons, hfree, if_neg Bool.false_ne_true, ih _ _ hl, hentries, List.append_assoc]
    · rfl
    · intro e he y hy
      rw [hentries, List.mem_append, List.mem_singleton] at he
      rcases he with he | rfl
      · exact hm e he y (List.mem_cons_of_mem x hy)
      · exact hx y hy

end EventLedger.OrderedMap
