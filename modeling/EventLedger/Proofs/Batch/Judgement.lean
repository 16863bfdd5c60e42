import EventLedger.Proofs.Batch
import EventLedger.Proofs.MemoryStorage

/-!
# Judging batches of any numbers

The number expected at a place of a batch is the first number plus the place.  It is a sequence number
unless the batch runs on up to the greatest one and further; past that the check fails instead of
refusing the batch.

## Main definitions

* `Overruns ns` — the numbers run on up to the greatest one, and there are more.
* `Judged ps` — what the check says of a batch.

## Main results

* `judged_of_le` — **the check judges every batch**, up to the greatest sequence number.
-/

namespace EventLedger

/-- The numbers run on from one that is at least 1 up to the greatest one, and there are more. -/
def Overruns (ns : List Nat) : Prop :=
  ∃ first i, 1 ≤ first ∧ first + i = greatestSequence ∧ (∀ j ≤ i, ns[j]? = some (first + j)) ∧
    i + 1 < ns.length

/-- Numbers overrun the greatest one if they depart where the next number would exceed it. -/
theorem overruns_iff {ns : List Nat} (hle : ∀ n ∈ ns, n ≤ greatestSequence) : Overruns ns ↔
    ∃ first i n, ns.head? = some first ∧ 1 ≤ first ∧ Departs first ns i n ∧
      greatestSequence < first + i := by
  constructor
  · rintro ⟨first, i, hfirst, hlast, hrun, hmore⟩
    have hhead : ns.head? = some first := by
      rw [List.head?_eq_getElem?]
      exact hrun 0 (Nat.zero_le i)
    have hnext := hle _ (List.getElem_mem hmore)
    refine ⟨first, i + 1, _, hhead, hfirst, ⟨List.getElem?_eq_getElem hmore, by omega, ?_⟩, by omega⟩
    intro j hj
    exact hrun j (Nat.le_of_lt_succ hj)
  · rintro ⟨first, i, n, hhead, hfirst, hdeparts, hhigh⟩
    have hlow := hle first (List.mem_of_mem_head? hhead)
    obtain ⟨k, rfl⟩ : ∃ k, i = k + 1 := Nat.exists_eq_add_one.2 (by omega)
    have hbefore := hle _ (List.mem_of_getElem? (hdeparts.before k (Nat.lt_succ_self k)))
    refine ⟨first, k, hfirst, by omega, ?_, hdeparts.lt_length⟩
    intro j hj
    exact hdeparts.before j (Nat.lt_succ_of_le hj)

/-- What the check says of a batch. -/
structure Judged (ps : List PendingEvent) : Prop where
  /-- The batch is accepted if it has a first number, which is at least 1, and the number at place
  `i` exceeds that by `i`. -/
  accepted : validateBatch ps = .ok () ↔ ∃ first, (ps.map (·.sequence)).head? = some first ∧
    1 ≤ first ∧ ∀ i n, (ps.map (·.sequence))[i]? = some n → n = first + i
  /-- Otherwise it is refused as invalid, unless it overruns the greatest number. -/
  refused : validateBatch ps ≠ .ok () → ¬Overruns (ps.map (·.sequence)) →
    ∃ reason, validateBatch ps = .error (.invalidBatch reason)
  /-- If it begins at 1 or later, what is reported is the first number that is not the first one plus
  its place, beside the one expected. -/
  reported : ∀ first i n, (ps.map (·.sequence)).head? = some first → 1 ≤ first →
    Departs first (ps.map (·.sequence)) i n → ¬Overruns (ps.map (·.sequence)) →
    validateBatch ps =
      .error (.invalidBatch s!"expected sequence number {first + i}, got {n}")
  /-- The check fails if the batch overruns the greatest number. -/
  failed : Overruns (ps.map (·.sequence)) → validateBatch ps = .error .sequenceOverflow

/-- **The check judges every batch** of numbers up to the greatest one. -/
theorem judged_of_le {ps : List PendingEvent} (h : ∀ p ∈ ps, p.sequence ≤ greatestSequence) :
    Judged ps := by
  have hoverruns := overruns_iff (List.forall_mem_map.2 h)
  have hnext : ¬Overruns (ps.map (·.sequence)) → ∀ first i n,
      (ps.map (·.sequence)).head? = some first → 1 ≤ first →
      Departs first (ps.map (·.sequence)) i n → first + i ≤ greatestSequence := by
    intro hno first i n hhead hfirst hdeparts
    by_contra hhigh
    exact hno (hoverruns.2 ⟨first, i, n, hhead, hfirst, hdeparts, Nat.lt_of_not_le hhigh⟩)
  refine ⟨?accepted, ?refused, ?reported, ?failed⟩
  case accepted =>
    rw [validateBatch_eq_ok_iff, and_iff_left h, runsOn_iff]
    simp only [eq_range'_iff]
  case refused =>
    intro hbad hno
    rw [ne_eq, validateBatch_eq_ok_iff, and_iff_left h] at hbad
    exact exists_refusal hbad (hnext hno)
  case reported =>
    intro first i n hhead hfirst hdeparts hno
    rw [validateBatch_of_departs hhead hfirst hdeparts,
      if_pos (hnext hno first i n hhead hfirst hdeparts)]
  case failed =>
    intro hover
    obtain ⟨first, i, n, hhead, hfirst, hdeparts, hhigh⟩ := hoverruns.1 hover
    rw [validateBatch_of_departs hhead hfirst hdeparts, if_neg (Nat.not_le.2 hhigh)]

open MemoryStorage (sampleBatch)

/-- A batch that goes back right before the greatest number is refused there. -/
theorem reported_below_greatest :
    (∀ p ∈ sampleBatch [greatestSequence - 2, greatestSequence - 1, 1],
      p.sequence ≤ greatestSequence) ∧
    validateBatch (sampleBatch [greatestSequence - 2, greatestSequence - 1, 1]) =
      .error (.invalidBatch "expected sequence number 18446744073709551615, got 1") := by
  have hle : ∀ p ∈ sampleBatch [greatestSequence - 2, greatestSequence - 1, 1],
      p.sequence ≤ greatestSequence := by
    decide
  refine ⟨hle, (judged_of_le hle).reported (greatestSequence - 2) 2 1 rfl (by decide)
    ⟨rfl, by decide, by decide⟩ ?_⟩
  rintro ⟨first, i, -, hlast, hrun, hmore⟩
  have hfirst : greatestSequence - 2 = first := Option.some.inj (hrun 0 (Nat.zero_le i))
  have hi : i + 1 < 3 := hmore
  unfold greatestSequence at hfirst hlast
  omega

/-- A batch that goes on past the greatest number is not refused, though its numbers do not run on. -/
theorem failed_past_greatest :
    ¬RunsOn ((sampleBatch [greatestSequence, 0]).map (·.sequence)) ∧
    (∀ p ∈ sampleBatch [greatestSequence, 0], p.sequence ≤ greatestSequence) ∧
    validateBatch (sampleBatch [greatestSequence, 0]) = .error .sequenceOverflow ∧
    ∀ reason, validateBatch (sampleBatch [greatestSequence, 0]) ≠ .error (.invalidBatch reason) := by
  have hfailed : validateBatch (sampleBatch [greatestSequence, 0]) = .error .sequenceOverflow := by
    decide
  refine ⟨?_, by decide, hfailed, ?_⟩
  · intro hruns
    have := hruns.pairwise_lt
    revert this
    decide
  · rw [hfailed]
    nofun

end EventLedger
