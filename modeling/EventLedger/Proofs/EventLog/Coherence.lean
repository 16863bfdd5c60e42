import EventLedger.Proofs.Stream
import Mathlib.Data.List.Perm.Basic
import Mathlib.Data.List.Nodup

/-!
# Coherent logs

The log keeps every event twice, in its stream and among all events.  The two agree in every log
that commits and deletions lead to, so that what a stream holds, what a page shows and what a
deletion removes can be told from the list of all events.

## Main definitions

* `EventLog.all l` — all events, in the order of their global numbers.
* `EventLog.event? l key n` — the event at a place of a stream.
* `EventLog.Coherent l` — the streams hold the events of the list, each at its place.

## Main results

* `EventLog.Coherent.append` — putting a batch at free places adds it at the end of the list.
* `EventLog.Coherent.delete` — deleting a stream filters the list.
* `EventLog.Coherent.load_perm`, `EventLog.Coherent.atLeast_log` — reading filters the list.
-/

namespace EventLedger.EventLog

/-- All events, in the order of their global numbers. -/
def all (l : EventLog) : List CommittedEvent := l.log.values

/-- The event stored at a place of a stream. -/
def event? (l : EventLog) (key : StreamKey) (n : Nat) : Option CommittedEvent :=
  (l.stream key).get? n

/-- The streams hold the events of the list of all events, each at its place, and the list is kept
by global numbers that have been given out. -/
structure Coherent (l : EventLog) : Prop where
  numbered : l.log.entries = l.all.map fun e => (e.globalSequence, e)
  drawn : ∀ e ∈ l.all, 1 ≤ e.globalSequence ∧ e.globalSequence ≤ l.lastGlobal
  placed : ∀ {key n e}, l.event? key n = some e ↔ e ∈ l.all ∧ e.key = key ∧ e.sequence = n

theorem coherent_empty : Coherent empty where
  numbered := rfl
  drawn := by
    intro e he
    cases he
  placed := by
    intro key n e
    constructor
    · intro h
      cases h
    · rintro ⟨he, -⟩
      cases he

variable {l : EventLog} {key : StreamKey} {b : Uuid} {ps : List PendingEvent}
  {e e' : CommittedEvent}

/-! ### The stored forms of a batch -/

theorem map_globalSequence_number (key : StreamKey) (b : Uuid) : ∀ (g : Nat) (ps : List PendingEvent),
    (number key b g ps).map (·.globalSequence) = List.range' (g + 1) ps.length
  | _, [] => rfl
  | g, p :: ps => by
    rw [number, List.map_cons, map_globalSequence_number key b (g + 1) ps, List.length_cons,
      List.range'_succ]
    rfl

theorem mem_globalSequence_number {g : Nat} (h : e ∈ number key b g ps) :
    g < e.globalSequence ∧ e.globalSequence ≤ g + ps.length := by
  have hmem := List.mem_map_of_mem (f := (·.globalSequence)) h
  rw [map_globalSequence_number, List.mem_range'_1] at hmem
  omega

/-- Each event of a batch is stored as it was brought. -/
theorem forall₂_number (key : StreamKey) (b : Uuid) : ∀ (g : Nat) (ps : List PendingEvent),
    List.Forall₂ (fun p e => e = p.commit key b e.globalSequence) ps (number key b g ps)
  | _, [] => .nil
  | g, _ :: ps => .cons rfl (forall₂_number key b (g + 1) ps)

theorem exists_of_mem_number : ∀ {g : Nat} {ps : List PendingEvent}, e ∈ number key b g ps →
    ∃ p ∈ ps, e = p.commit key b e.globalSequence
  | _, [], h => by cases h
  | g, p :: ps, h => by
    rw [number, List.mem_cons] at h
    rcases h with rfl | h
    · exact ⟨p, List.mem_cons_self, rfl⟩
    · obtain ⟨p', hp', heq⟩ := exists_of_mem_number h
      exact ⟨p', List.mem_cons_of_mem p hp', heq⟩

theorem key_of_mem_number {g : Nat} (h : e ∈ number key b g ps) : e.key = key := by
  obtain ⟨p, -, heq⟩ := exists_of_mem_number h
  rw [heq]
  rfl

/-! ### Places -/

theorem event?_of_stream_eq {l' : EventLog} {key' : StreamKey} {n : Nat}
    (h : l'.stream key' = l.stream key') : l'.event? key' n = l.event? key' n := by
  rw [event?, event?, h]

/-- A place that no event of a batch takes stays as it is. -/
theorem event?_append_of_ne {es : List CommittedEvent} {key' : StreamKey} {n : Nat}
    (h : key = key' → ∀ e ∈ es, e.sequence ≠ n) :
    (l.append key es).event? key' n = l.event? key' n := by
  rw [event?, stream_append]
  split
  next hk =>
    subst hk
    exact OrderedMap.get?_foldl_insert_of_forall_ne (h rfl)
  next => rfl

/-- An event of a batch is put at its place. -/
theorem event?_append_of_mem {es : List CommittedEvent} (he : e ∈ es)
    (hes : (es.map (·.sequence)).Nodup) :
    (l.append key es).event? key e.sequence = some e := by
  rw [event?, stream_append, if_pos rfl]
  exact OrderedMap.get?_foldl_insert_of_mem he hes

theorem stream_delete (l : EventLog) (key key' : StreamKey) :
    (l.delete key).2.stream key' = if key = key' then .empty else l.stream key' := by
  simp only [stream, delete, OrderedMap.get?_erase]
  by_cases hk : key = key'
  · subst hk
    simp
  · have hne : compare key key' ≠ .eq := fun h => hk (Std.LawfulEqCmp.eq_of_compare h)
    simp [hk, hne]

namespace Coherent

variable (h : l.Coherent)

include h

/-! ### The list of all events -/

theorem ascending : l.all.Pairwise fun e e' => e.globalSequence < e'.globalSequence := by
  have hpairs := l.log.ascending
  rw [h.numbered, List.pairwise_map] at hpairs
  exact hpairs.imp Nat.compare_eq_lt.1

theorem nodup_all : l.all.Nodup :=
  h.ascending.imp fun hlt heq => by
    subst heq
    exact Nat.lt_irrefl _ hlt

/-- Events with one global number are one event. -/
theorem eq_of_globalSequence (he : e ∈ l.all) (he' : e' ∈ l.all)
    (heq : e.globalSequence = e'.globalSequence) : e = e' := by
  have hmem : ∀ e ∈ l.all, (e.globalSequence, e) ∈ l.log.entries := by
    intro e he
    rw [h.numbered]
    exact List.mem_map_of_mem he
  exact congrArg Prod.snd (OrderedMap.eq_of_mem_entries (hmem e he) (hmem e' he') heq)

/-- Events at one place are one event. -/
theorem eq_of_place (he : e ∈ l.all) (he' : e' ∈ l.all) (hkey : e.key = e'.key)
    (hseq : e.sequence = e'.sequence) : e = e' := by
  have hfst := h.placed.2 ⟨he, hkey, hseq⟩
  have hsnd := h.placed.2 ⟨he', rfl, rfl⟩
  rw [hfst] at hsnd
  exact Option.some.inj hsnd

/-- Every event is kept under its own number. -/
theorem keyed (key : StreamKey) :
    (l.stream key).entries = (l.stream key).values.map fun e => (e.sequence, e) := by
  rw [OrderedMap.values, List.map_map]
  refine (List.map_id _).symm.trans (List.map_congr_left ?_)
  rintro ⟨n, e⟩ hmem
  obtain ⟨-, -, rfl⟩ := h.placed.1 (OrderedMap.mem_entries_iff.1 hmem)
  rfl

theorem ascending_stream (key : StreamKey) :
    (l.stream key).values.Pairwise fun e e' => e.sequence < e'.sequence := by
  have hpairs := (l.stream key).ascending
  rw [h.keyed, List.pairwise_map] at hpairs
  exact hpairs.imp Nat.compare_eq_lt.1

theorem mem_stream : e ∈ (l.stream key).values ↔ e ∈ l.all ∧ e.key = key := by
  rw [OrderedMap.mem_values_iff]
  constructor
  · rintro ⟨n, hn⟩
    obtain ⟨he, hkey, -⟩ := h.placed.1 hn
    exact ⟨he, hkey⟩
  · rintro ⟨he, hkey⟩
    exact ⟨e.sequence, h.placed.2 ⟨he, hkey, rfl⟩⟩

/-- A stream holds the events of its key. -/
theorem stream_perm (key : StreamKey) :
    (l.stream key).values.Perm (l.all.filter (·.key = key)) := by
  have hnodup : (l.stream key).values.Nodup :=
    (h.ascending_stream key).imp fun hlt heq => by
      subst heq
      exact Nat.lt_irrefl _ hlt
  rw [List.perm_ext_iff_of_nodup hnodup (h.nodup_all.filter _)]
  intro e
  rw [h.mem_stream, List.mem_filter, decide_eq_true_eq]

/-! ### Reading -/

omit h in
/-- Reading from a key on filters the values that are kept under a key of their own. -/
theorem atLeast_of_keyed {m : OrderedMap Nat CommittedEvent} {f : CommittedEvent → Nat}
    (hm : m.entries = m.values.map fun e => (f e, e)) (k : Nat) :
    m.atLeast k = m.values.filter (k ≤ f ·) := by
  rw [OrderedMap.atLeast, hm, List.filter_map, List.map_map]
  have hkeep : (fun e : CommittedEvent => decide (k ≤ f e)) =
      (fun x : Nat × CommittedEvent => compare x.1 k != .lt) ∘ fun e => (f e, e) := by
    funext e
    rw [Bool.eq_iff_iff]
    simp [Nat.compare_eq_lt]
  rw [hkeep]
  exact List.map_id' _

/-- **A page shows the events from a global number on.** -/
theorem atLeast_log (start : Nat) : l.log.atLeast start = l.all.filter (start ≤ ·.globalSequence) :=
  atLeast_of_keyed h.numbered start

/-- **Reading a stream yields its events from a number on.** -/
theorem load_perm (key : StreamKey) (start : Nat) :
    (l.load key start).Perm (l.all.filter fun e => e.key = key ∧ start ≤ e.sequence) := by
  rw [load, atLeast_of_keyed (h.keyed key)]
  refine ((h.stream_perm key).filter _).trans (List.Perm.of_eq ?_)
  rw [List.filter_filter]
  exact List.filter_congr fun e _ => by simp [Bool.and_comm]

theorem ascending_load (key : StreamKey) (start : Nat) :
    (l.load key start).Pairwise fun e e' => e.sequence < e'.sequence := by
  rw [load, atLeast_of_keyed (h.keyed key)]
  exact (h.ascending_stream key).filter _

/-! ### Commits -/

/-- The stored forms of a batch are kept after all events. -/
theorem entries_append (key : StreamKey) (b : Uuid) (ps : List PendingEvent) :
    (l.append key (number key b l.lastGlobal ps)).log.entries =
      (l.all ++ number key b l.lastGlobal ps).map fun e => (e.globalSequence, e) := by
  have hnumbers := map_globalSequence_number key b l.lastGlobal ps
  rw [List.map_append, ← h.numbered]
  refine OrderedMap.entries_foldl_insert ?_ ?_
  · intro x hx e he
    rw [h.numbered] at hx
    obtain ⟨e', he', rfl⟩ := List.mem_map.1 hx
    have hlow := (h.drawn e' he').2
    have hhigh := (mem_globalSequence_number he).1
    rw [Nat.compare_eq_lt]
    omega
  · have hpairs : (List.range' (l.lastGlobal + 1) ps.length).Pairwise (· < ·) :=
      List.pairwise_lt_range'
    rw [← hnumbers, List.pairwise_map] at hpairs
    exact hpairs.imp Nat.compare_eq_lt.2

theorem all_append (key : StreamKey) (b : Uuid) (ps : List PendingEvent) :
    (l.append key (number key b l.lastGlobal ps)).all = l.all ++ number key b l.lastGlobal ps := by
  rw [all, OrderedMap.values, h.entries_append, List.map_map]
  exact List.map_id' _

/-- **A batch that is put at free places keeps the log coherent.** -/
theorem append (hfree : ∀ p ∈ ps, l.event? key p.sequence = none)
    (hnodup : (ps.map (·.sequence)).Nodup) :
    (l.append key (number key b l.lastGlobal ps)).Coherent := by
  have hall := h.all_append key b ps
  have hseqs : ((number key b l.lastGlobal ps).map (·.sequence)).Nodup := by
    rw [map_sequence_number]
    exact hnodup
  have hmem : ∀ {e}, e ∈ number key b l.lastGlobal ps → ∃ p ∈ ps, p.sequence = e.sequence := by
    intro e he
    obtain ⟨p, hp, heq⟩ := exists_of_mem_number he
    exact ⟨p, hp, by rw [heq]; rfl⟩
  constructor
  · rw [hall]
    exact h.entries_append key b ps
  · intro e he
    have hcount : (l.append key (number key b l.lastGlobal ps)).lastGlobal =
        l.lastGlobal + ps.length :=
      congrArg (l.lastGlobal + ·) (length_number key b l.lastGlobal ps)
    rw [hall, List.mem_append] at he
    rw [hcount]
    rcases he with he | he
    · have := h.drawn e he
      omega
    · have := mem_globalSequence_number he
      omega
  · intro key' n e
    rw [hall, List.mem_append]
    -- either an event of the batch was put at the place, or the place is as before
    by_cases hnew : key = key' ∧ ∃ e ∈ number key b l.lastGlobal ps, e.sequence = n
    · obtain ⟨rfl, e', he', rfl⟩ := hnew
      rw [event?_append_of_mem he' hseqs, Option.some.injEq]
      constructor
      · rintro rfl
        exact ⟨.inr he', key_of_mem_number he', rfl⟩
      · rintro ⟨he | he, hkey, hseq⟩
        · -- the place was free
          obtain ⟨p, hp, hpseq⟩ := hmem he'
          have htaken := h.placed.2 ⟨he, hkey, hseq⟩
          rw [← hpseq, hfree p hp] at htaken
          cases htaken
        · exact List.inj_on_of_nodup_map hseqs he' he hseq.symm
    · have hne : key = key' → ∀ e ∈ number key b l.lastGlobal ps, e.sequence ≠ n := by
        intro hkey e he hseq
        exact hnew ⟨hkey, e, he, hseq⟩
      rw [event?_append_of_ne hne, h.placed]
      constructor
      · rintro ⟨he, hplace⟩
        exact ⟨.inl he, hplace⟩
      · rintro ⟨he | he, hkey, hseq⟩
        · exact ⟨he, hkey, hseq⟩
        · exact absurd hseq (hne ((key_of_mem_number he).symm.trans hkey) e he)

/-! ### Deletions -/

/-- A deletion removes as many events as its stream has. -/
theorem fst_delete (key : StreamKey) :
    (l.delete key).1 = (l.all.filter (·.key = key)).length :=
  (h.stream_perm key).length_eq

/-- What a deletion leaves is kept as before. -/
theorem entries_delete (key : StreamKey) :
    (l.delete key).2.log.entries =
      (l.all.filter (·.key ≠ key)).map fun e => (e.globalSequence, e) := by
  have hgone : ∀ e ∈ l.all,
      ((l.stream key).values.all fun x => compare e.globalSequence x.globalSequence != .eq) =
        decide (e.key ≠ key) := by
    intro e he
    rw [Bool.eq_iff_iff, List.all_eq_true, decide_eq_true_eq]
    constructor
    · intro hall hkey
      simpa using hall e (h.mem_stream.2 ⟨he, hkey⟩)
    · intro hkey x hx
      obtain ⟨hx, hxkey⟩ := h.mem_stream.1 hx
      rw [bne_iff_ne, Ne, Nat.compare_eq_eq]
      intro heq
      exact hkey (h.eq_of_globalSequence he hx heq ▸ hxkey)
  rw [delete, OrderedMap.entries_foldl_erase, h.numbered, List.filter_map]
  exact congrArg _ (List.filter_congr hgone)

theorem all_delete (key : StreamKey) : (l.delete key).2.all = l.all.filter (·.key ≠ key) := by
  rw [all, OrderedMap.values, h.entries_delete, List.map_map]
  exact List.map_id' _

/-- **Deleting a stream keeps the log coherent.** -/
theorem delete (key : StreamKey) : (l.delete key).2.Coherent := by
  have hall := h.all_delete key
  constructor
  · rw [hall]
    exact h.entries_delete key
  · intro e he
    rw [hall] at he
    exact h.drawn e (List.mem_filter.1 he).1
  · intro key' n e
    rw [hall, List.mem_filter, decide_eq_true_eq, event?, stream_delete]
    by_cases hk : key = key'
    · subst hk
      rw [if_pos rfl, OrderedMap.get?_empty]
      constructor
      · intro hn
        cases hn
      · rintro ⟨⟨-, hne⟩, heq, -⟩
        exact absurd heq hne
    · rw [if_neg hk]
      refine h.placed.trans ?_
      constructor
      · rintro ⟨he, rfl, hseq⟩
        exact ⟨⟨he, Ne.symm hk⟩, rfl, hseq⟩
      · rintro ⟨⟨he, -⟩, hplace⟩
        exact ⟨he, hplace⟩

end Coherent

end EventLedger.EventLog
