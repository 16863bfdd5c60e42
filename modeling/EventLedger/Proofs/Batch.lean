import EventLedger.Batch
import Mathlib.Data.List.Basic

/-!
# The numbering of batches

The check of a batch passes over its numbers as long as they run on.  If they do so to the end, the
batch is accepted; otherwise it is refused at the first number that is not the next one.  Only past
the greatest number, where no number comes next, the check itself fails.

## Main definitions

* `RunsOn ns` — the numbers run on from one that is at least 1.
* `Departs first ns i n` — the numbers run on from `first` up to place `i`, where `n` stands instead.
* `StaysBelow n ps` — the numbers that a batch should have stay below `n`.

## Main results

* `validateBatch_eq_ok_iff` — **which batches are accepted.**
* `validateBatch_of_departs` — what is said of a batch whose numbers do not run on.
* `validateBatch_cases` — the check of a batch that ends before the numbers do.
-/

namespace EventLedger

/-- The numbers run on without gaps from one that is at least 1. -/
def RunsOn (ns : List Nat) : Prop :=
  ∃ first, 1 ≤ first ∧ ns ≠ [] ∧ ns = List.range' first ns.length

/-- The number `n` at place `i` is the first that is not the next one, if `first` comes first. -/
structure Departs (first : Nat) (ns : List Nat) (i n : Nat) : Prop where
  found : ns[i]? = some n
  differs : n ≠ first + i
  before : ∀ j < i, ns[j]? = some (first + j)

/-- The numbers from that of the first event on, as many as the batch has events, are below `n`. -/
def StaysBelow (n : Nat) (ps : List PendingEvent) : Prop :=
  ∀ p ∈ ps.head?, p.sequence + ps.length ≤ n

/-! ### Numbers that run on -/

section Numbers

variable {first i m n : Nat} {ns : List Nat}

/-- Numbers run on if the one at place `i` exceeds the first by `i`. -/
theorem eq_range'_iff :
    ns = List.range' first ns.length ↔ ∀ i n, ns[i]? = some n → n = first + i := by
  constructor
  · intro h i n hi
    obtain ⟨hlt, rfl⟩ := List.getElem?_eq_some_iff.1 hi
    rw [List.getElem_of_eq h, List.getElem_range', Nat.one_mul]
  · intro h
    refine List.ext_getElem (by simp) fun i hi _ => ?_
    rw [List.getElem_range', Nat.one_mul]
    exact h i _ (List.getElem?_eq_getElem hi)

/-- Numbers that run on do so from the first one. -/
theorem runsOn_iff : RunsOn ns ↔
    ∃ first, ns.head? = some first ∧ 1 ≤ first ∧ ns = List.range' first ns.length := by
  cases ns with
  | nil => simp [RunsOn]
  | cons n ns =>
    simp only [RunsOn, List.head?_cons, Option.some.injEq, List.length_cons, List.range'_succ,
      List.cons.injEq]
    constructor
    · rintro ⟨first, hfirst, -, rfl, hrun⟩
      exact ⟨n, rfl, hfirst, rfl, hrun⟩
    · rintro ⟨first, rfl, hfirst, -, hrun⟩
      exact ⟨n, hfirst, List.cons_ne_nil _ _, rfl, hrun⟩

theorem departs_zero_iff : Departs first (m :: ns) 0 n ↔ m = n ∧ n ≠ first := by
  constructor
  · rintro ⟨hfound, hdiffers, -⟩
    exact ⟨Option.some.inj hfound, hdiffers⟩
  · rintro ⟨rfl, hdiffers⟩
    exact ⟨rfl, hdiffers, nofun⟩

theorem departs_succ_iff : Departs first (m :: ns) (i + 1) n ↔
    m = first ∧ Departs (first + 1) ns i n := by
  constructor
  · rintro ⟨hfound, hdiffers, hbefore⟩
    refine ⟨Option.some.inj (hbefore 0 (Nat.succ_pos i)), hfound, by omega, ?_⟩
    intro j hj
    rw [Nat.add_right_comm]
    exact hbefore (j + 1) (Nat.succ_lt_succ hj)
  · rintro ⟨rfl, hfound, hdiffers, hbefore⟩
    refine ⟨hfound, by omega, ?_⟩
    rintro (_ | j) hj
    · rfl
    · rw [List.getElem?_cons_succ, hbefore j (Nat.lt_of_succ_lt_succ hj), Nat.add_right_comm,
        Nat.add_assoc]

/-- Numbers run on to their end, or there is a first one that is not the next. -/
theorem runs_or_departs (first : Nat) (ns : List Nat) :
    ns = List.range' first ns.length ∨ ∃ i n, Departs first ns i n := by
  induction ns generalizing first with
  | nil => exact .inl rfl
  | cons m ns ih =>
    by_cases hm : m = first
    · subst hm
      rcases ih (m + 1) with hrun | ⟨i, n, hdeparts⟩
      · exact .inl (congrArg (m :: ·) hrun)
      · exact .inr ⟨i + 1, n, departs_succ_iff.2 ⟨rfl, hdeparts⟩⟩
    · exact .inr ⟨0, m, departs_zero_iff.2 ⟨rfl, hm⟩⟩

theorem Departs.lt_length (h : Departs first ns i n) : i < ns.length :=
  (List.getElem?_eq_some_iff.1 h.found).1

/-! ### Passing over numbers -/

/-- Numbers pass if they run on and none of them exceeds the greatest one. -/
theorem checkRun_eq_ok_iff : checkRun first ns = .ok () ↔
    ns = List.range' first ns.length ∧ ∀ n ∈ ns, n ≤ greatestSequence := by
  induction ns generalizing first with
  | nil => simp [checkRun]
  | cons m ns ih =>
    rw [checkRun, List.length_cons, List.range'_succ, List.cons.injEq, List.forall_mem_cons]
    by_cases hm : m = first
    · subst hm
      by_cases hlow : greatestSequence < m
      · simp [hlow, Nat.not_le.2 hlow]
      · simp [hlow, Nat.not_lt.1 hlow, ih]
    · by_cases hlow : greatestSequence < first <;> simp [hlow, hm]

/-- Where the numbers do not run on, the next one is reported, or there is no next one. -/
theorem checkRun_of_departs (h : Departs first ns i n) : checkRun first ns =
    .error (if first + i ≤ greatestSequence then .gap (first + i) n else .overflow) := by
  induction ns generalizing first i with
  | nil => exact absurd h.lt_length (Nat.not_lt_zero i)
  | cons m ns ih =>
    rw [checkRun]
    cases i with
    | zero =>
      obtain ⟨rfl, hm⟩ := departs_zero_iff.1 h
      simp only [Nat.add_zero]
      by_cases hlow : greatestSequence < first
      · rw [if_pos hlow, if_neg (Nat.not_le.2 hlow)]
      · rw [if_neg hlow, if_pos hm, if_pos (Nat.not_lt.1 hlow)]
    | succ i =>
      obtain ⟨rfl, hrest⟩ := departs_succ_iff.1 h
      by_cases hlow : greatestSequence < m
      · rw [if_pos hlow, if_neg (by omega)]
      · rw [if_neg hlow, if_neg (not_not_intro rfl), ih hrest, Nat.add_right_comm, Nat.add_assoc]

end Numbers

/-! ### The check of a batch -/

section Check

variable {ps : List PendingEvent} {first i n : Nat}

/-- A batch that begins at 1 or later is checked from its first number on. -/
theorem validateBatch_of_pos (hhead : (ps.map (·.sequence)).head? = some first)
    (hfirst : 1 ≤ first) :
    validateBatch ps = (checkRun first (ps.map (·.sequence))).mapError BatchFault.error := by
  obtain ⟨rest, hns⟩ := List.head?_eq_some_iff.1 hhead
  rw [validateBatch, hns, checkNumbering.eq_3 _ _ (by omega)]
  cases checkRun first (first :: rest) <;> rfl

/-- A batch that is empty or begins at 0 is refused as invalid. -/
theorem validateBatch_of_not_pos
    (h : ¬∃ first, (ps.map (·.sequence)).head? = some first ∧ 1 ≤ first) :
    ∃ reason, validateBatch ps = .error (.invalidBatch reason) := by
  rw [validateBatch]
  cases hns : ps.map (·.sequence) with
  | nil => exact ⟨_, rfl⟩
  | cons n ns =>
    obtain rfl : n = 0 := by
      by_contra hn
      exact h ⟨n, by rw [hns, List.head?_cons], Nat.pos_of_ne_zero hn⟩
    exact ⟨_, rfl⟩

/-- **The check accepts a batch** if its numbers run on and none of them exceeds the greatest one. -/
theorem validateBatch_eq_ok_iff : validateBatch ps = .ok () ↔
    RunsOn (ps.map (·.sequence)) ∧ ∀ p ∈ ps, p.sequence ≤ greatestSequence := by
  rw [runsOn_iff]
  by_cases hpos : ∃ first, (ps.map (·.sequence)).head? = some first ∧ 1 ≤ first
  · obtain ⟨first, hhead, hfirst⟩ := hpos
    have hok : validateBatch ps = .ok () ↔ checkRun first (ps.map (·.sequence)) = .ok () := by
      rw [validateBatch_of_pos hhead hfirst]
      cases checkRun first (ps.map (·.sequence)) <;> simp [Except.mapError]
    rw [hok, checkRun_eq_ok_iff, hhead, List.forall_mem_map]
    simp [hfirst]
  · obtain ⟨reason, hreason⟩ := validateBatch_of_not_pos hpos
    rw [hreason]
    refine iff_of_false nofun ?_
    rintro ⟨⟨first, hhead, hfirst, -⟩, -⟩
    exact hpos ⟨first, hhead, hfirst⟩

/-- A batch is refused at the first number that is not the next one, if there is a next one. -/
theorem validateBatch_of_departs (hhead : (ps.map (·.sequence)).head? = some first)
    (hfirst : 1 ≤ first) (h : Departs first (ps.map (·.sequence)) i n) :
    validateBatch ps = .error (if first + i ≤ greatestSequence then
      .invalidBatch s!"expected sequence number {first + i}, got {n}" else .sequenceOverflow) := by
  rw [validateBatch_of_pos hhead hfirst, checkRun_of_departs h]
  split <;> rfl

/-- A batch whose numbers do not run on is refused as invalid, if there is a next number wherever
they stop. -/
theorem exists_refusal (hruns : ¬RunsOn (ps.map (·.sequence)))
    (hnext : ∀ first i n, (ps.map (·.sequence)).head? = some first → 1 ≤ first →
      Departs first (ps.map (·.sequence)) i n → first + i ≤ greatestSequence) :
    ∃ reason, validateBatch ps = .error (.invalidBatch reason) := by
  by_cases hpos : ∃ first, (ps.map (·.sequence)).head? = some first ∧ 1 ≤ first
  · obtain ⟨first, hhead, hfirst⟩ := hpos
    rcases runs_or_departs first (ps.map (·.sequence)) with hrun | ⟨i, n, hdeparts⟩
    · exact absurd (runsOn_iff.2 ⟨first, hhead, hfirst, hrun⟩) hruns
    · have hlow := hnext first i n hhead hfirst hdeparts
      rw [validateBatch_of_departs hhead hfirst hdeparts, if_pos hlow]
      exact ⟨_, rfl⟩
  · exact validateBatch_of_not_pos hpos

/-- A batch that ends before the numbers do is accepted if its numbers run on, and refused as invalid
otherwise. -/
theorem validateBatch_cases (h : StaysBelow (greatestSequence + 1) ps) :
    RunsOn (ps.map (·.sequence)) ∧ validateBatch ps = .ok () ∨
      ¬RunsOn (ps.map (·.sequence)) ∧ ∃ reason, validateBatch ps = .error (.invalidBatch reason) := by
  have hbelow : ∀ first, (ps.map (·.sequence)).head? = some first →
      first + ps.length ≤ greatestSequence + 1 := by
    intro first hhead
    rw [List.head?_map, Option.map_eq_some_iff] at hhead
    obtain ⟨p, hp, rfl⟩ := hhead
    exact h p hp
  by_cases hruns : RunsOn (ps.map (·.sequence))
  · refine .inl ⟨hruns, validateBatch_eq_ok_iff.2 ⟨hruns, ?_⟩⟩
    obtain ⟨first, hhead, -, hrun⟩ := runsOn_iff.1 hruns
    intro p hp
    have hmem := List.mem_map_of_mem (f := (·.sequence)) hp
    rw [hrun, List.length_map, List.mem_range'_1] at hmem
    have := hbelow first hhead
    omega
  · refine .inr ⟨hruns, exists_refusal hruns ?_⟩
    intro first i n hhead _ hdeparts
    have hplace := hdeparts.lt_length
    rw [List.length_map] at hplace
    have := hbelow first hhead
    omega

/-- The numbers of a batch that passes the check do not exceed the greatest one. -/
theorem le_of_validateBatch (h : validateBatch ps = .ok ()) :
    ∀ p ∈ ps, p.sequence ≤ greatestSequence :=
  (validateBatch_eq_ok_iff.1 h).2

end Check

theorem RunsOn.pairwise_lt {ns : List Nat} (h : RunsOn ns) : ns.Pairwise (· < ·) := by
  obtain ⟨first, -, -, hrun⟩ := h
  rw [hrun]
  exact List.pairwise_lt_range'

theorem RunsOn.nodup {ns : List Nat} (h : RunsOn ns) : ns.Nodup :=
  h.pairwise_lt.imp Nat.ne_of_lt

end EventLedger
