import EventLedger.EventLog
import EventLedger.Proofs.Batch
import EventLedger.Proofs.OrderedMap
import Mathlib.Data.List.Basic

/-!
# Streams without gaps

A stream whose numbers run on from 1 is the list of its events: reading from a number on drops the
events before it, and a batch that starts after one of its events is appended, refused, or stored
already.

## Main definitions

* `Stream.GapFree s` — the events of `s` are kept under their own numbers, which run on from 1.

## Main results

* `EventLog.load_eq_drop` — what reading yields.
* `EventLog.commit_ok` — **what it means that a batch was accepted.**
-/

namespace EventLedger

namespace Stream

/-- The events of the stream are kept under their own numbers, which run on from 1. -/
structure GapFree (s : Stream) : Prop where
  keyed : s.entries = s.values.map fun e => (e.sequence, e)
  numbered : s.values.map (·.sequence) = List.range' 1 s.values.length

theorem gapFree_empty : GapFree (.empty : Stream) := ⟨rfl, rfl⟩

/-- Events numbered from `a` on, cut at number `k`. -/
theorem filter_numbered {k : Nat} : ∀ (es : List CommittedEvent) (a : Nat),
    es.map (·.sequence) = List.range' a es.length → a ≤ k →
    es.filter (fun e => compare e.sequence k != .lt) = es.drop (k - a)
  | [], _, _, _ => by simp
  | e :: es, a, h, hak => by
    obtain ⟨he, hes⟩ : e.sequence = a ∧ es.map (·.sequence) = List.range' (a + 1) es.length := by
      simpa [List.range'_succ] using h
    rcases Nat.eq_or_lt_of_le hak with rfl | hlt
    · -- all numbers are `a` or above
      rw [Nat.sub_self, List.drop_zero, List.filter_eq_self]
      intro x hx
      have hmem : x.sequence ∈ List.range' a (es.length + 1) := by
        rw [← List.length_cons (a := e), ← h]
        exact List.mem_map_of_mem hx
      have hle : a ≤ x.sequence := (List.mem_range'_1.1 hmem).1
      simpa [Nat.compare_eq_lt] using hle
    · obtain ⟨d, rfl⟩ : ∃ d, k = a + 1 + d := ⟨k - (a + 1), by omega⟩
      have hd : a + 1 + d - a = d + 1 := by omega
      rw [hd, List.drop_succ_cons, List.filter_cons_of_neg]
      · have := filter_numbered es (a + 1) hes (Nat.le_add_right _ d)
        rwa [show a + 1 + d - (a + 1) = d by omega] at this
      · have : compare e.sequence (a + 1 + d) = .lt := by
          rw [Nat.compare_eq_lt]; omega
        simp [this]

/-- The event under number `k` among events numbered from `a` on. -/
theorem find?_numbered {k : Nat} : ∀ (es : List CommittedEvent) (a : Nat),
    es.map (·.sequence) = List.range' a es.length → a ≤ k →
    es.find? (fun e => compare e.sequence k == .eq) = es[k - a]?
  | [], _, _, _ => by simp
  | e :: es, a, h, hak => by
    obtain ⟨he, hes⟩ : e.sequence = a ∧ es.map (·.sequence) = List.range' (a + 1) es.length := by
      simpa [List.range'_succ] using h
    rcases Nat.eq_or_lt_of_le hak with rfl | hlt
    · simp [he]
    · have hne : compare e.sequence k ≠ .eq := by
        rw [Ne, Nat.compare_eq_eq]; omega
      obtain ⟨d, rfl⟩ : ∃ d, k = a + 1 + d := ⟨k - (a + 1), by omega⟩
      have hd : a + 1 + d - a = d + 1 := by omega
      rw [List.find?_cons_of_neg (by simpa using hne), hd, List.getElem?_cons_succ]
      have := find?_numbered es (a + 1) hes (Nat.le_add_right _ d)
      rwa [show a + 1 + d - (a + 1) = d by omega] at this

namespace GapFree

variable {s : Stream} (h : s.GapFree)

include h

/-- **Reading from a number on drops the events before it.** -/
theorem atLeast_eq {k : Nat} (hk : 1 ≤ k) : s.atLeast k = s.values.drop (k - 1) := by
  rw [OrderedMap.atLeast, h.keyed, List.filter_map, List.map_map,
    ← filter_numbered _ 1 h.numbered hk]
  simp only [Function.comp_def, List.map_id']

theorem get?_eq {k : Nat} (hk : 1 ≤ k) : s.get? k = s.values[k - 1]? := by
  rw [OrderedMap.get?, h.keyed, List.find?_map, Option.map_map, ← find?_numbered _ 1 h.numbered hk]
  simp only [Function.comp_def, Option.map_id']

theorem contains_iff {k : Nat} (hk : 1 ≤ k) : s.contains k = true ↔ k ≤ s.values.length := by
  rw [OrderedMap.contains, h.get?_eq hk, Option.isSome_iff_ne_none, Ne, List.getElem?_eq_none_iff]
  omega

theorem sequence_getElem {i : Nat} (hi : i < s.values.length) : s.values[i].sequence = i + 1 := by
  have hm := congrArg (fun l => l[i]?) h.numbered
  simpa [hi, Nat.add_comm] using hm

/-- An event stands at one place only. -/
theorem eq_of_getElem? {i j : Nat} {e : CommittedEvent} (hi : s.values[i]? = some e)
    (hj : s.values[j]? = some e) : i = j := by
  obtain ⟨hilt, rfl⟩ := List.getElem?_eq_some_iff.1 hi
  obtain ⟨hjlt, heq⟩ := List.getElem?_eq_some_iff.1 hj
  have hsequence := congrArg CommittedEvent.sequence heq
  rw [h.sequence_getElem hilt, h.sequence_getElem hjlt] at hsequence
  omega

/-- The last of the first `n` events has number `n`. -/
theorem sequence_getLast?_take {n : Nat} (hn : n ≤ s.values.length) :
    (((s.values.take n).getLast?).map (·.sequence)).getD 0 = n := by
  rcases Nat.eq_zero_or_pos n with rfl | hpos
  · simp
  · have hlt : n - 1 < s.values.length := by omega
    have hlast : (s.values.take n).getLast? = some s.values[n - 1] := by
      rw [List.getLast?_eq_getElem?, List.length_take, Nat.min_eq_left hn, List.getElem?_take,
        if_pos (by omega), List.getElem?_eq_getElem]
    rw [hlast]
    simp only [Option.map_some, Option.getD_some, h.sequence_getElem]
    omega

/-- The events after the first `n` end with the last number. -/
theorem sequence_getLast?_drop {n : Nat} (hn : n ≤ s.values.length) :
    (((s.values.drop n).getLast?).map (·.sequence)).getD n = s.values.length := by
  rcases Nat.eq_or_lt_of_le hn with rfl | hlt
  · simp
  · have hlt' : s.values.length - 1 < s.values.length := by omega
    have hlast : (s.values.drop n).getLast? = some s.values[s.values.length - 1] := by
      rw [List.getLast?_drop, if_neg (by omega), List.getLast?_eq_getElem?,
        List.getElem?_eq_getElem]
    rw [hlast]
    simp only [Option.map_some, Option.getD_some, h.sequence_getElem]
    omega

/-- The event numbered right before the one at place `n` is the last of the first `n`. -/
theorem getLast?_take_of_next {n : Nat} {e f : CommittedEvent} (he : e ∈ s.values)
    (hf : s.values[n]? = some f) (hnext : f.sequence = e.sequence + 1) :
    (s.values.take n).getLast? = some e := by
  obtain ⟨i, hi, rfl⟩ := List.getElem_of_mem he
  obtain ⟨hn, rfl⟩ := List.getElem?_eq_some_iff.1 hf
  rw [h.sequence_getElem hn, h.sequence_getElem hi] at hnext
  obtain rfl : n = i + 1 := by omega
  rw [List.getLast?_take, if_neg (Nat.succ_ne_zero i), Nat.add_sub_cancel,
    List.getElem?_eq_getElem hi, Option.some_or]

/-- An event under the next number is put at the end. -/
theorem insert {e : CommittedEvent} (he : e.sequence = s.values.length + 1) :
    Stream.GapFree (s.insert e.sequence e) ∧
      (s.insert e.sequence e).values = s.values ++ [e] := by
  have hgt : ∀ x ∈ s.entries, compare e.sequence x.1 = .gt := by
    intro x hx
    rw [h.keyed] at hx
    obtain ⟨c, hc, rfl⟩ := List.mem_map.1 hx
    obtain ⟨i, hi, rfl⟩ := List.mem_iff_getElem.1 hc
    rw [h.sequence_getElem hi, he, Nat.compare_eq_gt]
    omega
  have hentries : (s.insert e.sequence e).entries = s.entries ++ [(e.sequence, e)] :=
    OrderedMap.insertEntry_of_gt hgt
  have hvalues : (s.insert e.sequence e).values = s.values ++ [e] := by
    simp [OrderedMap.values, hentries]
  refine ⟨⟨?_, ?_⟩, hvalues⟩
  · rw [hentries, hvalues, h.keyed]
    simp [OrderedMap.values, Function.comp_def]
  · rw [hvalues, List.map_append, h.numbered, List.length_append, List.map_singleton, he,
      List.length_singleton, List.range'_concat]
    congr 2
    omega

/-- Events under the next numbers are put at the end. -/
theorem foldl_insert {es : List CommittedEvent}
    (hes : es.map (·.sequence) = List.range' (s.values.length + 1) es.length) :
    Stream.GapFree (es.foldl (fun s e => OrderedMap.insert s e.sequence e) s) ∧
      (es.foldl (fun s e => OrderedMap.insert s e.sequence e) s).values = s.values ++ es := by
  induction es generalizing s with
  | nil => exact ⟨h, by simp⟩
  | cons e es ih =>
    obtain ⟨he, hes'⟩ : e.sequence = s.values.length + 1 ∧
        es.map (·.sequence) = List.range' (s.values.length + 1 + 1) es.length := by
      simpa [List.range'_succ] using hes
    obtain ⟨hgap, hval⟩ := h.insert he
    obtain ⟨hgap', hval'⟩ := ih hgap (by rw [hval]; simpa using hes')
    exact ⟨hgap', by rw [List.foldl_cons, hval', hval, List.append_assoc, List.singleton_append]⟩

end GapFree

end Stream

namespace EventLog

/-! ### Reading and committing -/

theorem stream_append (l : EventLog) (key key' : StreamKey) (es : List CommittedEvent) :
    (l.append key es).stream key' =
      if key = key' then es.foldl (fun s e => OrderedMap.insert s e.sequence e) (l.stream key)
      else l.stream key' := by
  simp only [stream, append, OrderedMap.get?_insert]
  by_cases hk : key = key'
  · subst hk
    simp
  · have hne : compare key key' ≠ .eq := fun h => hk (Std.LawfulEqCmp.eq_of_compare h)
    simp [hk, hne]

/-- **Reading a stream without gaps drops the events before the first number.** -/
theorem load_eq_drop {l : EventLog} {key : StreamKey} (h : (l.stream key).GapFree) {k : Nat}
    (hk : 1 ≤ k) : l.load key k = (l.stream key).values.drop (k - 1) :=
  h.atLeast_eq hk

theorem map_sequence_number (key : StreamKey) (b : Uuid) : ∀ (g : Nat) (ps : List PendingEvent),
    (number key b g ps).map (·.sequence) = ps.map (·.sequence)
  | _, [] => rfl
  | g, p :: ps => by
    rw [number, List.map_cons, map_sequence_number key b (g + 1) ps]
    rfl

theorem length_number (key : StreamKey) (b : Uuid) (g : Nat) (ps : List PendingEvent) :
    (number key b g ps).length = ps.length := by
  simpa using congrArg List.length (map_sequence_number key b g ps)

/-- The stored events of a batch carry its identifier and the metadata they were brought with. -/
theorem mem_number {key : StreamKey} {b : Uuid} {e : CommittedEvent} :
    ∀ {g : Nat} {ps : List PendingEvent}, e ∈ number key b g ps →
      e.batchId = b ∧ ∃ p ∈ ps, e.metadata = p.metadata
  | _, [], h => by simp [number] at h
  | g, p :: ps, h => by
    rw [number, List.mem_cons] at h
    rcases h with rfl | h
    · exact ⟨rfl, p, by simp, rfl⟩
    · obtain ⟨hb, p', hp', hm⟩ := mem_number h
      exact ⟨hb, p', by simp [hp'], hm⟩

/-- A batch that passes the check is numbered from its first number on. -/
theorem numbered_of_validateBatch {ps : List PendingEvent} (h : validateBatch ps = .ok ()) :
    ∃ p rest, ps = p :: rest ∧ 1 ≤ p.sequence ∧
      ps.map (·.sequence) = List.range' p.sequence ps.length := by
  obtain ⟨first, hhead, hfirst, hrun⟩ := runsOn_iff.1 (validateBatch_eq_ok_iff.1 h).1
  rw [List.head?_map, Option.map_eq_some_iff] at hhead
  obtain ⟨p, hp, rfl⟩ := hhead
  obtain ⟨rest, rfl⟩ := List.head?_eq_some_iff.1 hp
  rw [List.length_map] at hrun
  exact ⟨p, rest, rfl, hfirst, hrun⟩

/-- A batch that is stored already is what its numbers hold. -/
theorem resubmitted?_eq_some {s : Stream} (h : s.GapFree) {b : Uuid} :
    ∀ {ps : List PendingEvent} {V : Nat} {stored : List CommittedEvent},
      ps.map (·.sequence) = List.range' (V + 1) ps.length → resubmitted? s b ps = some stored →
      stored = (s.values.drop V).take ps.length ∧
        List.Forall₂ (fun p c => p.isCommittedAs c b = true) ps stored
  | [], V, stored, _, hr => by
    obtain rfl : stored = [] := by simpa [resubmitted?] using hr.symm
    simp
  | p :: ps, V, stored, hps, hr => by
    obtain ⟨hp, hps'⟩ :
        p.sequence = V + 1 ∧ ps.map (·.sequence) = List.range' (V + 2) ps.length := by
      simpa [List.range'_succ] using hps
    simp only [resubmitted?, List.mapM_cons, Option.pure_def, Option.bind_eq_bind,
      Option.bind_eq_some_iff, Option.some.injEq] at hr
    obtain ⟨c, hc, rest, hrest, rfl⟩ := hr
    obtain ⟨hget, hsame⟩ := Option.filter_eq_some_iff.1 hc
    rw [hp, h.get?_eq (by omega)] at hget
    obtain ⟨hV, rfl⟩ := List.getElem?_eq_some_iff.1 hget
    obtain ⟨hrest', hall⟩ := resubmitted?_eq_some h hps' hrest
    refine ⟨?_, .cons hsame hall⟩
    rw [List.drop_eq_getElem_cons (by simpa using hV), List.length_cons, List.take_succ_cons,
      hrest']
    simp

/-- A batch overlaps the stream if its first number is taken. -/
theorem taken_eq_nil_iff {s : Stream} (h : s.GapFree) {ps : List PendingEvent} {V : Nat}
    (hps : ps.map (·.sequence) = List.range' (V + 1) ps.length) (hne : ps ≠ []) :
    taken s ps = [] ↔ s.values.length ≤ V := by
  rw [taken, hps, List.filter_eq_nil_iff]
  constructor
  · intro hall
    have hfirst : V + 1 ∈ List.range' (V + 1) ps.length := by
      rw [List.mem_range'_1]
      have := List.length_pos_iff.2 hne
      omega
    have := hall _ hfirst
    rw [h.contains_iff (Nat.le_add_left 1 V)] at this
    omega
  · intro hle k hk
    have hlow := (List.mem_range'_1.1 hk).1
    rw [h.contains_iff (by omega)]
    omega

/-- A refused batch leaves the log as it is. -/
theorem commit_error {l : EventLog} {key : StreamKey} {b : Uuid} {ps : List PendingEvent}
    {e : Error} (h : (l.commit key b ps).1 = .error e) : (l.commit key b ps).2 = l := by
  unfold commit at h ⊢
  split at h
  · rfl
  · split at h
    · split at h
      · cases h
      · next => simp_all
    · cases h

/-- An accepted batch is numbered from its first number on. -/
theorem numbered_of_commit {l : EventLog} {key : StreamKey} {b : Uuid} {ps : List PendingEvent}
    {stored : List CommittedEvent} (h : (l.commit key b ps).1 = .ok stored) :
    ∃ p rest, ps = p :: rest ∧ 1 ≤ p.sequence ∧
      ps.map (·.sequence) = List.range' p.sequence ps.length := by
  unfold commit at h
  split at h
  · cases h
  next hvalid => exact numbered_of_validateBatch hvalid

/-- An accepted batch has an event. -/
theorem ne_nil_of_commit {l : EventLog} {key : StreamKey} {b : Uuid} {ps : List PendingEvent}
    {stored : List CommittedEvent} (h : (l.commit key b ps).1 = .ok stored) : ps ≠ [] := by
  obtain ⟨p, rest, rfl, -⟩ := numbered_of_commit h
  exact List.cons_ne_nil p rest

/-- **What it means that a batch was accepted**: its numbers were the next ones of the stream and it
was put there, or it was stored already and the log stays as it is. -/
theorem commit_ok {l : EventLog} {key : StreamKey} {b : Uuid} {ps : List PendingEvent}
    {stored : List CommittedEvent} {V : Nat} (hgap : (l.stream key).GapFree)
    (hps : ps.map (·.sequence) = List.range' (V + 1) ps.length)
    (hV : V ≤ (l.stream key).values.length) (h : (l.commit key b ps).1 = .ok stored) :
    (V = (l.stream key).values.length ∧ stored = number key b l.lastGlobal ps ∧
      (l.commit key b ps).2 = l.append key stored) ∨
    (V < (l.stream key).values.length ∧ (l.commit key b ps).2 = l ∧
      stored = ((l.stream key).values.drop V).take ps.length ∧
      List.Forall₂ (fun p c => p.isCommittedAs c b = true) ps stored) := by
  unfold commit at h ⊢
  split at h
  · cases h
  next hvalid =>
    have hne : ps ≠ [] := by
      obtain ⟨p, rest, rfl, -⟩ := numbered_of_validateBatch hvalid
      simp
    split at h
    next first rest htaken =>
      -- an overlap: the batch is stored already
      have hlt : V < (l.stream key).values.length := by
        rcases Nat.lt_or_ge V (l.stream key).values.length with hlt | hge
        · exact hlt
        · rw [(taken_eq_nil_iff hgap hps hne).2 hge] at htaken
          cases htaken
      split at h
      next stored' hr =>
        obtain rfl : stored' = stored := by simpa using h
        obtain ⟨hstored, hall⟩ := resubmitted?_eq_some hgap hps hr
        exact .inr ⟨hlt, by simp, hstored, hall⟩
      next => cases h
    next htaken =>
      have hle := (taken_eq_nil_iff hgap hps hne).1 htaken
      obtain rfl : number key b l.lastGlobal ps = stored := by simpa using h
      exact .inl ⟨by omega, rfl, rfl⟩

end EventLog

end EventLedger
