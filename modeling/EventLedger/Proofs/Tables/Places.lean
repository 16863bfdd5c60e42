import EventLedger.Proofs.EventLog.Commits
import EventLedger.Proofs.Tables.Attempt
import Mathlib.Data.List.Pairwise

/-!
# The places of a batch

Rows are told apart by the places at which they stand, and the rows of a batch that is stored are
just those at its places, in the order of the batch.  So whoever reads them finds the batch.

## Main definitions

* `TableStorage.Holds s key b ps es` — the rows at the places of the batch are read as the events
  `es`, which are the batch as it was brought.

## Main results

* `TableStorage.isResubmission_iff_forall₂` — how stored events are recognised as those of a batch.
* `TableStorage.rowsAt_eq_rowsOf` — the rows at the places of a stored batch are its rows.
* `TableStorage.holds_of_subset` — **a batch whose rows are visible is held by the table.**
-/

namespace EventLedger

theorem EventDraft.collides_self (d : EventDraft) : d.collides d = true := by
  simp [collides]

namespace Apart

variable {rows : List EventRow} {r r' : EventRow}

theorem nodup (h : Apart rows) : rows.Nodup :=
  h.imp fun hapart heq => by
    subst heq
    rw [EventDraft.collides_self] at hapart
    cases hapart

/-- Rows at one place are one row. -/
theorem eq_of_collides (h : Apart rows) (hr : r ∈ rows) (hr' : r' ∈ rows)
    (hcollides : r.collides r'.toEventDraft = true) : r = r' := by
  by_contra hne
  have : Std.Symm fun r r' : EventRow => r.collides r'.toEventDraft = false :=
    ⟨fun r r' hfree => (EventDraft.collides_comm r'.toEventDraft r.toEventDraft).trans hfree⟩
  have hapart : r.collides r'.toEventDraft = false := List.Pairwise.forall h hr hr' hne
  rw [hcollides] at hapart
  cases hapart

end Apart

namespace TableStorage

/-- The rows at the places of a batch are read as the events `es`, and these are the batch as it was
brought. -/
structure Holds (s : Server) (key : StreamKey) (b : Uuid) (ps : List PendingEvent)
    (es : List CommittedEvent) : Prop where
  read : (rowsAt s key ps).mapM EventRow.decode = .ok es
  same : isResubmission b ps es = true

variable {s : Server} {key : StreamKey} {b : Uuid} {ps : List PendingEvent} {globals : List Nat}
  {es : List CommittedEvent}

/-! ### Recognising a batch -/

/-- Stored events are those of a batch if each is the event of the batch at its position. -/
theorem isResubmission_iff_forall₂ :
    isResubmission b ps es = true ↔ List.Forall₂ (fun p e => p.isCommittedAs e b = true) ps es := by
  rw [isResubmission, Bool.and_eq_true, beq_iff_eq, List.all_eq_true, List.forall₂_iff_zip]
  constructor
  · rintro ⟨hlength, hsame⟩
    exact ⟨hlength.symm, fun {p e} hpe => hsame (p, e) hpe⟩
  · rintro ⟨hlength, hsame⟩
    exact ⟨hlength.symm, fun pe hpe => hsame hpe⟩

/-- A batch is recognised in its stored forms. -/
theorem isResubmission_zipWith (key : StreamKey) (b : Uuid) (hlength : globals.length = ps.length) :
    isResubmission b ps (List.zipWith (·.commit key b ·) ps globals) = true := by
  rw [isResubmission_iff_forall₂]
  induction ps generalizing globals with
  | nil => exact .nil
  | cons p ps ih =>
    obtain ⟨g, globals, rfl⟩ := List.exists_cons_of_length_eq_add_one hlength
    exact .cons (EventLog.isCommittedAs_commit p key b g) (ih (Nat.succ.inj hlength))

/-- The rows of a batch are read as its stored forms. -/
theorem mapM_decode_rowsOf (key : StreamKey) (b : Uuid) : ∀ {ps : List PendingEvent}
    {globals : List Nat}, globals.length = ps.length →
    (rowsOf (draftsOf key b ps) globals).mapM EventRow.decode =
      .ok (List.zipWith (·.commit key b ·) ps globals)
  | [], [], _ => rfl
  | p :: ps, g :: globals, h => by
    change (⟨.of key b p, (g : Int)⟩ :: rowsOf (draftsOf key b ps) globals).mapM _ = _
    rw [List.mapM_cons, EventRow.decode_of, mapM_decode_rowsOf key b (Nat.succ.inj h)]
    rfl

/-! ### Places -/

/-- The numbers of a batch are those from the first to the last. -/
theorem mem_sequences_iff (hrun : RunsOn (ps.map (·.sequence))) {n : Nat} :
    n ∈ ps.map (·.sequence) ↔ firstOf ps ≤ n ∧ n ≤ lastOf ps := by
  obtain ⟨first, -, hne, hrange⟩ := hrun
  have hpos : 0 < (ps.map (·.sequence)).length := List.length_pos_of_ne_nil hne
  have hfirst : firstOf ps = first := by
    rw [firstOf, ← List.head?_map, hrange, List.head?_range', if_neg (Nat.ne_of_gt hpos)]
    rfl
  have hlast : lastOf ps = first + (ps.map (·.sequence)).length - 1 := by
    rw [lastOf, ← List.getLast?_map, hrange, List.getLast?_range', if_neg (Nat.ne_of_gt hpos),
      List.length_range']
    rfl
  rw [hfirst, hlast, hrange, List.mem_range'_1, List.length_range']
  omega

theorem exists_of_mem_rowsOf {r : EventRow} : ∀ {ps : List PendingEvent} {globals : List Nat},
    r ∈ rowsOf (draftsOf key b ps) globals →
      ∃ p ∈ ps, ∃ g ∈ globals, r = ⟨.of key b p, (g : Int)⟩
  | [], _, h => by cases h
  | _ :: _, [], h => by cases h
  | p :: ps, g :: globals, h => by
    rcases List.mem_cons.1 h with rfl | h
    · exact ⟨p, List.mem_cons_self, g, List.mem_cons_self, rfl⟩
    · obtain ⟨p', hp', g', hg', heq⟩ := exists_of_mem_rowsOf h
      exact ⟨p', List.mem_cons_of_mem p hp', g', List.mem_cons_of_mem g hg', heq⟩

/-- The sequence numbers of the rows of a batch are those of the batch. -/
theorem map_sequence_rowsOf (hlength : globals.length = ps.length) :
    (rowsOf (draftsOf key b ps) globals).map (·.sequence) =
      ps.map fun p => (p.sequence : Int) := by
  have hdrafts := map_toEventDraft_rowsOf_draftsOf key b hlength
  have hmap := congrArg (List.map (·.sequence)) hdrafts
  rw [List.map_map, draftsOf, List.map_map] at hmap
  exact hmap

/-- **The rows at the places of a stored batch are its rows**, in the order of the batch. -/
theorem rowsAt_eq_rowsOf (hapart : Apart s.events) (hrun : RunsOn (ps.map (·.sequence)))
    (hlength : globals.length = ps.length)
    (hrows : ∀ r ∈ rowsOf (draftsOf key b ps) globals, r ∈ s.events) :
    rowsAt s key ps = rowsOf (draftsOf key b ps) globals := by
  refine Server.bySequence_eq hapart.nodup ?_ ?_
  · intro r
    rw [Bool.and_eq_true, Bool.and_eq_true, decide_eq_true_eq, decide_eq_true_eq]
    constructor
    · intro hr
      obtain ⟨p, hp, g, -, rfl⟩ := exists_of_mem_rowsOf hr
      have hbetween := (mem_sequences_iff hrun).1 (List.mem_map_of_mem hp)
      refine ⟨hrows _ hr, ⟨?_, Int.ofNat_le.2 hbetween.1⟩, Int.ofNat_le.2 hbetween.2⟩
      rw [EventRow.inStream_of, decide_eq_true_eq]
    · rintro ⟨hr, ⟨hstream, hlow⟩, hhigh⟩
      -- the place of the row is one of the batch, whose row stands there
      obtain ⟨n, hn⟩ := Int.eq_ofNat_of_zero_le (Int.le_trans (Int.natCast_nonneg _) hlow)
      rw [hn] at hlow hhigh
      have hmem : (n : Int) ∈ (rowsOf (draftsOf key b ps) globals).map (·.sequence) := by
        rw [map_sequence_rowsOf hlength]
        obtain ⟨p, hp, hpn⟩ := List.mem_map.1
          ((mem_sequences_iff hrun).2 ⟨Int.ofNat_le.1 hlow, Int.ofNat_le.1 hhigh⟩)
        exact List.mem_map.2 ⟨p, hp, by rw [hpn]⟩
      obtain ⟨r', hr', hseq⟩ := List.mem_map.1 hmem
      obtain ⟨p, -, g, -, rfl⟩ := exists_of_mem_rowsOf hr'
      have hcollides : r.collides (EventDraft.of key b p) = true := by
        rw [EventRow.inStream, Bool.and_eq_true] at hstream
        rw [EventDraft.collides, Bool.and_eq_true, hn, beq_iff_eq]
        exact ⟨Bool.and_eq_true_iff.2 hstream, hseq.symm⟩
      rw [hapart.eq_of_collides hr (hrows _ hr') hcollides]
      exact hr'
  · have hascending := hrun.pairwise_lt
    rw [List.pairwise_map] at hascending
    have hsequences : ((rowsOf (draftsOf key b ps) globals).map (·.sequence)).Pairwise (· < ·) := by
      rw [map_sequence_rowsOf hlength, List.pairwise_map]
      exact hascending.imp Int.ofNat_lt.2
    exact List.pairwise_map.1 hsequences

/-- **A batch whose rows are visible is held by the table.** -/
theorem holds_of_subset (hapart : Apart s.events) (hrun : RunsOn (ps.map (·.sequence)))
    (hlength : globals.length = ps.length)
    (hrows : ∀ r ∈ rowsOf (draftsOf key b ps) globals, r ∈ s.events) :
    Holds s key b ps (List.zipWith (·.commit key b ·) ps globals) where
  read := by
    rw [rowsAt_eq_rowsOf hapart hrun hlength hrows]
    exact mapM_decode_rowsOf key b hlength
  same := isResubmission_zipWith key b hlength

end TableStorage

end EventLedger
