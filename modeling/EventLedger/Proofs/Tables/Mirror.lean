import EventLedger.Proofs.Tables.Places
import Mathlib.Data.List.GetD

/-!
# Tables that mirror a log

A log in memory counts its events through, while the numbers that a server draws may skip some.
Apart from that the table of events can hold just what the log holds, and then whatever is selected
from the one is what is read from the other.

## Main definitions

* `numberAt numbers g` — the number that a server drew for the `g`-th event.
* `Abreast numbers c c'` — a scan of the log and a scan of the table stand at the same place.
* `EventRow.holding ρ e` — the row that holds an event under another global number.
* `EventLog.Mirrors numbers l s` — the table of the server holds the events of the log.
* `EventLog.found l key ps` — the events of the log at the places of a batch.

## Main results

* `EventLog.Mirrors.fits_iff` — rows fit the table if and only if their places are free in the log.
* `EventLog.Mirrors.rowsAt_eq`, `EventLog.Mirrors.selectStream_eq`,
  `EventLog.Mirrors.selectGlobal_eq` — **what is selected is what is read from the log.**
* `EventLog.Mirrors.append`, `EventLog.Mirrors.delete` — both can change in the same way.
-/

namespace EventLedger

open TableStorage

/-- The number at the place `g`, counted from 1. -/
def numberAt (numbers : List Nat) (g : Nat) : Nat := numbers.getD (g - 1) 0

/-- The event under another global number. -/
def CommittedEvent.renumber (ρ : Nat → Nat) (e : CommittedEvent) : CommittedEvent :=
  { e with globalSequence := ρ e.globalSequence }

/-- The event as it was brought. -/
def CommittedEvent.pending (e : CommittedEvent) : PendingEvent :=
  ⟨e.sequence, e.type, e.payload, e.metadata⟩

/-- The row that holds the event under another global number. -/
def EventRow.holding (ρ : Nat → Nat) (e : CommittedEvent) : EventRow :=
  ⟨.of e.key e.batchId e.pending, (ρ e.globalSequence : Int)⟩

variable {numbers new : List Nat} {ρ : Nat → Nat}

/-! ### Numbers -/

theorem numberAt_append {g : Nat} (hpos : 1 ≤ g) (hg : g ≤ numbers.length) :
    numberAt (numbers ++ new) g = numberAt numbers g := by
  rw [numberAt, numberAt, List.getD_append]
  omega

theorem numberAt_mem {g : Nat} (hpos : 1 ≤ g) (hg : g ≤ numbers.length) :
    numberAt numbers g ∈ numbers := by
  have hlt : g - 1 < numbers.length := by omega
  rw [numberAt, List.getD_eq_getElem _ _ hlt]
  exact List.getElem_mem hlt

/-- Numbers that ascend keep the order of the events. -/
theorem numberAt_lt (hascending : numbers.Pairwise (· < ·)) {g g' : Nat} (hpos : 1 ≤ g)
    (hlt : g < g') (hg' : g' ≤ numbers.length) : numberAt numbers g < numberAt numbers g' := by
  have hlow : g - 1 < numbers.length := by omega
  have hhigh : g' - 1 < numbers.length := by omega
  rw [numberAt, numberAt, List.getD_eq_getElem _ _ hlow, List.getD_eq_getElem _ _ hhigh]
  exact List.pairwise_iff_getElem.1 hascending _ _ _ _ (by omega)

/-- Two scans that stand at the same place: where every scan may begin, or right after one event. -/
inductive Abreast (numbers : List Nat) : Nat → Nat → Prop
  | zero : Abreast numbers 0 0
  | one : Abreast numbers 1 1
  | after {g : Nat} (hpos : 1 ≤ g) (hg : g ≤ numbers.length) :
    Abreast numbers (g + 1) (numberAt numbers g + 1)

/-- Numbers that are drawn later leave both scans where they are. -/
theorem Abreast.append {c c' : Nat} (h : Abreast numbers c c') (new : List Nat) :
    Abreast (numbers ++ new) c c' := by
  cases h with
  | zero => exact .zero
  | one => exact .one
  | @after g hpos hg =>
    have hsame : numberAt (numbers ++ new) g = numberAt numbers g := numberAt_append hpos hg
    rw [← hsame]
    refine .after hpos ?_
    rw [List.length_append]
    omega

/-! ### Rows -/

theorem EventRow.mapM_decode_holding (ρ : Nat → Nat) : ∀ es : List CommittedEvent,
    (es.map (EventRow.holding ρ)).mapM EventRow.decode = .ok (es.map (·.renumber ρ))
  | [] => rfl
  | e :: es => by
    rw [List.map_cons, List.mapM_cons, holding, decode_of, mapM_decode_holding ρ es]
    rfl

theorem EventRow.inStream_holding (ρ : Nat → Nat) (e : CommittedEvent) (key : StreamKey) :
    (EventRow.holding ρ e).inStream key = decide (e.key = key) :=
  inStream_of e.key key e.batchId e.pending _

theorem EventDraft.collides_of_iff {key key' : StreamKey} {b b' : Uuid} {p p' : PendingEvent} :
    (EventDraft.of key b p).collides (.of key' b' p') = true ↔
      key = key' ∧ p.sequence = p'.sequence := by
  rw [StreamKey.eq_iff, collides, Bool.and_eq_true, Bool.and_eq_true, beq_iff_eq, beq_iff_eq,
    beq_iff_eq]
  exact and_congr_right fun _ => Int.ofNat_inj

/-- The stored forms of a batch, under the numbers that were drawn for it. -/
theorem map_renumber_number (key : StreamKey) (b : Uuid) : ∀ {ps : List PendingEvent}
    {numbers globals : List Nat}, globals.length = ps.length →
    (EventLog.number key b numbers.length ps).map (·.renumber (numberAt (numbers ++ globals))) =
      List.zipWith (·.commit key b ·) ps globals
  | [], _, [], _ => rfl
  | p :: ps, numbers, g :: globals, h => by
    have hnumber : numberAt (numbers ++ g :: globals) (numbers.length + 1) = g := by
      rw [numberAt, List.getD_append_right _ _ _ _ (by omega)]
      simp
    have hrest : (EventLog.number key b (numbers ++ [g]).length ps).map
        (·.renumber (numberAt ((numbers ++ [g]) ++ globals))) = _ :=
      map_renumber_number key b (Nat.succ.inj h)
    rw [List.append_assoc, List.singleton_append, List.length_append] at hrest
    rw [EventLog.number, List.map_cons, List.zipWith_cons_cons]
    refine congrArg₂ List.cons ?_ hrest
    rw [CommittedEvent.renumber]
    exact congrArg (p.commit key b) hnumber

theorem map_holding_number (key : StreamKey) (b : Uuid) {ps : List PendingEvent}
    {numbers globals : List Nat} (h : globals.length = ps.length) :
    (EventLog.number key b numbers.length ps).map
        (EventRow.holding (numberAt (numbers ++ globals))) =
      rowsOf (draftsOf key b ps) globals := by
  have hmap : EventRow.holding (numberAt (numbers ++ globals)) =
      EventRow.holding id ∘ (·.renumber (numberAt (numbers ++ globals))) := rfl
  rw [hmap, ← List.map_map, map_renumber_number key b h, List.map_zipWith, rowsOf, draftsOf,
    List.zipWith_map_left]
  rfl

namespace EventLog

/-- The table of the server holds the events of the log, under numbers that ascend. -/
structure Mirrors (numbers : List Nat) (l : EventLog) (s : Server) : Prop where
  coherent : l.Coherent
  rows : s.events = l.all.map (EventRow.holding (numberAt numbers))
  length : numbers.length = l.lastGlobal
  ascending : numbers.Pairwise (· < ·)
  drawn : ∀ n ∈ numbers, 1 ≤ n ∧ (n : Int) < s.nextGlobal
  next : 1 ≤ s.nextGlobal

/-- The events of the log at the places of a batch. -/
def found (l : EventLog) (key : StreamKey) (ps : List PendingEvent) : List CommittedEvent :=
  ps.filterMap fun p => l.event? key p.sequence

variable {l : EventLog} {s s' : Server} {key : StreamKey} {b : Uuid} {ps : List PendingEvent}
  {stored : List CommittedEvent} {e : CommittedEvent}

theorem mirrors_empty : Mirrors [] empty {} where
  coherent := coherent_empty
  rows := rfl
  length := rfl
  ascending := .nil
  drawn := by
    intro n hn
    cases hn
  next := Int.le_refl 1

namespace Mirrors

variable (h : Mirrors numbers l s)

include h

/-- The global numbers of the log are places of the list. -/
theorem bounds (he : e ∈ l.all) : 1 ≤ e.globalSequence ∧ e.globalSequence ≤ numbers.length := by
  rw [h.length]
  exact h.coherent.drawn e he

/-- The table may change in what the mirror does not show. -/
theorem of_events_eq (hevents : s'.events = s.events) (hnext : s.nextGlobal ≤ s'.nextGlobal) :
    Mirrors numbers l s' where
  coherent := h.coherent
  rows := hevents.trans h.rows
  length := h.length
  ascending := h.ascending
  drawn := by
    intro n hn
    obtain ⟨hpos, hlt⟩ := h.drawn n hn
    exact ⟨hpos, Int.lt_of_lt_of_le hlt hnext⟩
  next := Int.le_trans h.next hnext

theorem apart : Apart s.events := by
  have hplaces : l.all.Pairwise fun e e' => ¬(e.key = e'.key ∧ e.sequence = e'.sequence) := by
    refine h.coherent.nodup_all.imp_of_mem ?_
    rintro e e' he he' hne ⟨hkey, hseq⟩
    exact hne (h.coherent.eq_of_place he he' hkey hseq)
  rw [h.rows, Apart, List.pairwise_map]
  refine hplaces.imp ?_
  intro e e' hne
  rw [← Bool.not_eq_true]
  exact fun hcollides => hne (EventDraft.collides_of_iff.1 hcollides)

/-- **Rows fit the table if and only if their places are free in the log.** -/
theorem fits_iff (hrun : RunsOn (ps.map (·.sequence))) :
    Server.Fits s.events (draftsOf key b ps) ↔ l.FreeFor key ps := by
  constructor
  · intro hfits p hp
    rw [Option.eq_none_iff_forall_ne_some]
    intro e he
    obtain ⟨hall, hkey, hseq⟩ := h.coherent.placed.1 he
    have hrow : EventRow.holding (numberAt numbers) e ∈ s.events := by
      rw [h.rows]
      exact List.mem_map_of_mem hall
    have hfree := hfits.free _ (List.mem_map_of_mem hp) _ hrow
    rw [EventRow.holding, EventDraft.collides_of_iff.2 ⟨hkey.symm, hseq.symm⟩] at hfree
    cases hfree
  · intro hfree
    constructor
    · intro d hd r hr
      obtain ⟨p, hp, rfl⟩ := List.mem_map.1 hd
      rw [h.rows] at hr
      obtain ⟨e, he, rfl⟩ := List.mem_map.1 hr
      rw [← Bool.not_eq_true]
      intro hcollides
      obtain ⟨hkey, hseq⟩ := EventDraft.collides_of_iff.1 hcollides
      have htaken := h.coherent.placed.2 ⟨he, hkey.symm, hseq.symm⟩
      rw [hfree p hp] at htaken
      cases htaken
    · have hnodup := hrun.nodup
      rw [List.Nodup, List.pairwise_map] at hnodup
      rw [draftsOf, List.pairwise_map]
      refine hnodup.imp ?_
      intro p p' hne
      rw [← Bool.not_eq_true]
      exact fun hcollides => hne (EventDraft.collides_of_iff.1 hcollides).2

/-! ### Selections -/

/-- Rows that are selected by sequence number hold the events that satisfy the same condition. -/
theorem bySequence_eq {p : EventRow → Bool} {P : CommittedEvent → Prop} {es : List CommittedEvent}
    (hp : ∀ e, p (EventRow.holding (numberAt numbers) e) = true ↔ P e)
    (hmem : ∀ e, e ∈ es ↔ e ∈ l.all ∧ P e)
    (hascending : es.Pairwise fun e e' => e.sequence < e'.sequence) :
    s.bySequence p = es.map (EventRow.holding (numberAt numbers)) := by
  refine Server.bySequence_eq h.apart.nodup ?_ ?_
  · intro r
    rw [h.rows, List.mem_map, List.mem_map]
    constructor
    · rintro ⟨e, he, rfl⟩
      obtain ⟨hall, hP⟩ := (hmem e).1 he
      exact ⟨⟨e, hall, rfl⟩, (hp e).2 hP⟩
    · rintro ⟨⟨e, hall, rfl⟩, hpe⟩
      exact ⟨e, (hmem e).2 ⟨hall, (hp e).1 hpe⟩, rfl⟩
  · rw [List.pairwise_map]
    exact hascending.imp Int.ofNat_lt.2

/-- **Selecting a stream is reading it from the log.** -/
theorem selectStream_eq (key : StreamKey) (start : Nat) :
    (s.bySequence fun r => r.inStream key && (start : Int) ≤ r.sequence) =
      (l.load key start).map (EventRow.holding (numberAt numbers)) := by
  refine h.bySequence_eq (P := fun e => e.key = key ∧ start ≤ e.sequence) ?_ ?_
    (h.coherent.ascending_load key start)
  · intro e
    rw [Bool.and_eq_true, EventRow.inStream_holding, decide_eq_true_eq, decide_eq_true_eq]
    exact and_congr_right fun _ => Int.ofNat_le
  · intro e
    rw [(h.coherent.load_perm key start).mem_iff, List.mem_filter, decide_eq_true_eq]

/-- **The rows at the places of a batch hold the events that the log has there.** -/
theorem rowsAt_eq (hrun : RunsOn (ps.map (·.sequence))) :
    rowsAt s key ps = (l.found key ps).map (EventRow.holding (numberAt numbers)) := by
  refine h.bySequence_eq
    (P := fun e => e.key = key ∧ firstOf ps ≤ e.sequence ∧ e.sequence ≤ lastOf ps) ?_ ?_ ?_
  · intro e
    rw [Bool.and_eq_true, Bool.and_eq_true, EventRow.inStream_holding, decide_eq_true_eq,
      decide_eq_true_eq, decide_eq_true_eq, and_assoc]
    exact and_congr_right fun _ => and_congr Int.ofNat_le Int.ofNat_le
  · intro e
    rw [found, List.mem_filterMap]
    constructor
    · rintro ⟨p, hp, he⟩
      obtain ⟨hall, hkey, hseq⟩ := h.coherent.placed.1 he
      rw [hseq]
      exact ⟨hall, hkey, (mem_sequences_iff hrun).1 (List.mem_map_of_mem hp)⟩
    · -- the numbers of the batch leave no gap, so a number between them is one of them
      rintro ⟨hall, hkey, hbetween⟩
      obtain ⟨p, hp, hseq⟩ := List.mem_map.1 ((mem_sequences_iff hrun).2 hbetween)
      exact ⟨p, hp, h.coherent.placed.2 ⟨hall, hkey, hseq.symm⟩⟩
  · have hascending := hrun.pairwise_lt
    rw [List.pairwise_map] at hascending
    refine hascending.filterMap _ ?_
    intro p p' hlt e he e' he'
    rw [(h.coherent.placed.1 he).2.2, (h.coherent.placed.1 he').2.2]
    exact hlt

/-- Scans that stand at the same place have the same events before them. -/
theorem le_iff_of_abreast {c c' : Nat} (hc : Abreast numbers c c') (he : e ∈ l.all) :
    c ≤ e.globalSequence ↔ c' ≤ numberAt numbers e.globalSequence := by
  obtain ⟨hpos, hle⟩ := h.bounds he
  have hdrawn := (h.drawn _ (numberAt_mem hpos hle)).1
  cases hc with
  | zero => exact iff_of_true (Nat.zero_le _) (Nat.zero_le _)
  | one => exact iff_of_true hpos hdrawn
  | @after g hgpos hg =>
    constructor
    · intro hlt
      exact numberAt_lt h.ascending hgpos hlt hle
    · intro hlt
      by_contra hge
      rcases Nat.lt_or_eq_of_le (Nat.le_of_not_lt hge) with hless | heq
      · have := numberAt_lt h.ascending hpos hless hg
        omega
      · rw [heq] at hlt
        omega

/-- **Selecting by global number is reading all events**, if both scans stand at the same place. -/
theorem selectGlobal_eq {start start' : Nat} (hstart : Abreast numbers start start') :
    (s.byGlobal fun r => (start' : Int) ≤ r.global) =
      (l.log.atLeast start).map (EventRow.holding (numberAt numbers)) := by
  have hglobals : s.events.Pairwise fun r r' => decide (r.global ≤ r'.global) = true := by
    rw [h.rows, List.pairwise_map]
    refine h.coherent.ascending.imp_of_mem ?_
    intro e e' he he' hlt
    rw [decide_eq_true_eq]
    exact Int.ofNat_le.2
      (Nat.le_of_lt (numberAt_lt h.ascending (h.bounds he).1 hlt (h.bounds he').2))
  rw [Server.byGlobal, List.mergeSort_of_pairwise (hglobals.filter _), h.rows, List.filter_map,
    h.coherent.atLeast_log]
  -- the rows are sorted already, and the same ones are at or after the cursor
  refine congrArg _ (List.filter_congr ?_)
  intro e he
  rw [Bool.eq_iff_iff, Function.comp_apply, decide_eq_true_eq, decide_eq_true_eq,
    h.le_iff_of_abreast hstart he]
  exact Int.ofNat_le

/-! ### Changes -/

/-- **A batch that is put into both.** -/
theorem append {globals : List Nat} (hfree : l.FreeFor key ps)
    (hrun : RunsOn (ps.map (·.sequence))) (hlength : globals.length = ps.length)
    (hascending : globals.Pairwise (· < ·))
    (hdrawn : ∀ g ∈ globals, s.nextGlobal ≤ (g : Int) ∧ (g : Int) < s'.nextGlobal)
    (hnext : s.nextGlobal ≤ s'.nextGlobal)
    (hevents : s'.events = s.events ++ rowsOf (draftsOf key b ps) globals) :
    Mirrors (numbers ++ globals) (l.append key (number key b l.lastGlobal ps)) s' where
  coherent := hfree.append h.coherent hrun
  rows := by
    rw [hevents, h.rows, h.coherent.all_append, List.map_append, ← h.length,
      map_holding_number key b hlength]
    refine congrArg (· ++ _) (List.map_congr_left ?_)
    intro e he
    obtain ⟨hpos, hle⟩ := h.bounds he
    rw [EventRow.holding, EventRow.holding, numberAt_append hpos hle]
  length := by
    have hcount : (l.append key (number key b l.lastGlobal ps)).lastGlobal =
        l.lastGlobal + ps.length := (h.coherent.extends_append hrun).counted
    rw [hcount, List.length_append, h.length, hlength]
  ascending := by
    refine List.pairwise_append.2 ⟨h.ascending, hascending, ?_⟩
    intro n hn g hg
    have hlow := (h.drawn n hn).2
    have hhigh := (hdrawn g hg).1
    omega
  drawn := by
    intro n hn
    rcases List.mem_append.1 hn with hn | hn
    · have hold := h.drawn n hn
      omega
    · have hnew := hdrawn n hn
      have hfirst := h.next
      omega
  next := Int.le_trans h.next hnext

/-- **A stream that is deleted from both.** -/
theorem delete (key : StreamKey)
    (hevents : s'.events = s.events.filter fun r => !r.inStream key)
    (hnext : s'.nextGlobal = s.nextGlobal) : Mirrors numbers (l.delete key).2 s' where
  coherent := h.coherent.delete key
  rows := by
    rw [hevents, h.rows, h.coherent.all_delete, List.filter_map]
    refine congrArg _ (List.filter_congr ?_)
    intro e _
    rw [Function.comp_apply, EventRow.inStream_holding, decide_not]
  length := h.length
  ascending := h.ascending
  drawn := by
    rw [hnext]
    exact h.drawn
  next := by
    rw [hnext]
    exact h.next

/-- A deletion removes as many rows as events. -/
theorem length_inStream (key : StreamKey) :
    (s.events.filter (·.inStream key)).length = (l.delete key).1 := by
  rw [h.coherent.fst_delete, h.rows, List.filter_map, List.length_map]
  refine congrArg List.length (List.filter_congr ?_)
  intro e _
  rw [Function.comp_apply, EventRow.inStream_holding]

end Mirrors

end EventLog

end EventLedger
