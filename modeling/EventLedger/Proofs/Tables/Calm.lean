import EventLedger.Proofs.EventLog.Pages
import EventLedger.Proofs.Tables.Mirror
import EventLedger.Proofs.Tables.Retry

/-!
# Requests in a calm session

If no statement fails and nobody else does anything, a request to the tables ends with its first
attempt.  What it yields is what the log yields that the table mirrors, under the numbers that the
server has drawn, and afterwards the table mirrors the log after the request.

## Main results

* `Session.of_retryTransient` — in a calm session nothing is tried twice.
* `EventLog.Mirrors.of_commit`, `EventLog.Mirrors.of_load`, `EventLog.Mirrors.of_page`,
  `EventLog.Mirrors.of_delete` — **each request yields what the log yields.**
-/

namespace EventLedger

open Call (RunsTo)
open TableStorage

namespace Session

variable {w w' : Session} {q : Statement} {α : Type}

theorem uncancelled_of_calm : RetryRequest.Uncancelled (Goes True) where
  isCancelled := by
    rintro w w' a ⟨w₁, -, ha⟩
    exact ha.1 trivial
  pause := by
    rintro w w' d a ⟨w₁, -, ha⟩
    exact ha.1 trivial

/-- **In a calm session nothing is tried twice**, if what an attempt reports would not be mended by
another one. -/
theorem of_retryTransient {strategy : RetryStrategy} {heedsToken : Bool} {operation : TableCall α}
    {Q : Except TableError α → Session → Prop}
    (hattempt : ∀ r w', RunsTo (Goes True) operation w r w' → Q r w' ∧
      ∀ f, r = .error (.database f) → f.isTransient = false)
    {r : Except TableError α}
    (h : RunsTo (Goes True) (retryTransient strategy heedsToken operation) w r w') : Q r w' := by
  refine RetryCall.of_attemptFrom (P := (· = w)) (Q := Q) ?_ ?_ ?_ ?_ _ 1 rfl h
  · exact fun _ => uncancelled_of_calm
  · intro w₁ q a w₂ hq hgoes hw
    exact ((hgoes.moves hq).rests trivial).trans hw
  · rintro w₁ w₂ n d e rfl hend
    exact hend
  · rintro w₁ r₁ w₂ rfl hrun
    obtain ⟨hend, hfinal⟩ := hattempt r₁ w₂ hrun
    refine ⟨hend, ?_⟩
    intro f hf htransient
    rw [hfinal f hf] at htransient
    cases htransient

/-- A statement that the server carries out, and what follows. -/
theorem of_run_bind {c : q.Result → TableCall α} {r : Except TableError α}
    (hinsert : ∀ ds, q ≠ .insertEvents ds) (hcommit : q ≠ .commit)
    (hok : ∀ s : Server, ∃ x, (s.perform 0 q).1 = .ok x)
    (h : RunsTo (Goes True) ((run q).bind c) w r w') :
    ∃ x, (w.server.perform 0 q).1 = .ok x ∧
      RunsTo (Goes True) (c x) (w.after q (w.server.perform 0 q).2) r w' := by
  rcases cases_of_run_bind hinsert hcommit hok h with ⟨w₁, x, hmoves, hx, hrest⟩ | ⟨hcalm, -⟩
  · obtain rfl := hmoves.rests trivial
    exact ⟨x, hx, hrest⟩
  · exact absurd trivial hcalm

end Session

/-! ### Batches -/

namespace EventLog

variable {numbers : List Nat} {l : EventLog} {key : StreamKey} {b : Uuid} {ps : List PendingEvent}
  {w w' : Session} {stored : List CommittedEvent} {ρ : Nat → Nat}

open Session

theorem StoredAs.found_eq (h : l.StoredAs key b ps stored) : l.found key ps = stored := by
  induction h with
  | nil => rfl
  | @cons p e ps stored he _ ih =>
    have hcons : l.found key (p :: ps) = e :: l.found key ps :=
      List.filterMap_cons_some (f := fun p : PendingEvent => l.event? key p.sequence) he.1
    rw [hcons, ih]

/-- A batch is recognised in what is found at its places if and only if the log holds it there. -/
theorem isResubmission_found_iff (h : l.Coherent) :
    isResubmission b ps ((l.found key ps).map (·.renumber ρ)) = true ↔
      l.StoredAs key b ps (l.found key ps) := by
  rw [isResubmission_iff_forall₂, List.forall₂_map_right_iff]
  constructor
  · intro hsame
    refine (List.forall₂_iff_zip.2 ⟨hsame.length_eq, ?_⟩ : List.Forall₂ _ _ _)
    intro p e hpe
    have hcommitted := (List.forall₂_iff_zip.1 hsame).2 hpe
    obtain ⟨p', hp', he⟩ := List.mem_filterMap.1 (List.of_mem_zip hpe).2
    obtain ⟨hall, hkey, -⟩ := h.placed.1 he
    have hseq : e.sequence = p.sequence := by
      simp only [PendingEvent.isCommittedAs, Bool.and_eq_true, beq_iff_eq] at hcommitted
      exact hcommitted.1.1.2
    exact ⟨h.placed.2 ⟨hall, hkey, hseq⟩, hcommitted⟩
  · intro hstored
    exact hstored.imp fun _ _ hpe => hpe.2

/-- The first event that is found stands at the first place that is taken. -/
theorem FirstTaken.head_found {n : Nat} (h : l.Coherent)
    (hascending : (ps.map (·.sequence)).Pairwise (· < ·)) (hn : l.FirstTaken key ps n) :
    (l.found key ps).head?.map (·.sequence) = some n := by
  induction ps with
  | nil => cases hn.mem
  | cons p ps ih =>
    rw [List.map_cons, List.pairwise_cons] at hascending
    have hmem := hn.mem
    rw [List.map_cons, List.mem_cons] at hmem
    cases hp : l.event? key p.sequence with
    | some e =>
      have hfirst : n = p.sequence := by
        have htaken : l.event? key p.sequence ≠ none := by
          rw [hp]
          exact Option.some_ne_none e
        have hle := hn.least p.sequence List.mem_cons_self htaken
        rcases hmem with heq | hlater
        · exact heq
        · have hlt := hascending.1 n hlater
          omega
      have hcons : l.found key (p :: ps) = e :: l.found key ps :=
        List.filterMap_cons_some (f := fun p : PendingEvent => l.event? key p.sequence) hp
      rw [hcons, hfirst]
      exact congrArg some (h.placed.1 hp).2.2
    | none =>
      have hlater : n ∈ ps.map (·.sequence) := by
        rcases hmem with heq | hlater
        · exact absurd (heq ▸ hp) hn.taken
        · exact hlater
      have hcons : l.found key (p :: ps) = l.found key ps :=
        List.filterMap_cons_none (f := fun p : PendingEvent => l.event? key p.sequence) hp
      rw [hcons]
      refine ih hascending.2 ⟨hlater, hn.taken, ?_⟩
      intro m hm
      exact hn.least m (List.mem_cons_of_mem _ hm)

/-- **What the rows at the places of a batch decide** that the log does not put there. -/
theorem Mirrors.resolution_eq {s : Server} (h : Mirrors numbers l s)
    (hv : validateBatch ps = .ok ()) (htaken : ¬l.FreeFor key ps) :
    (l.commit key b ps).2 = l ∧ resolution key b ps (rowsAt s key ps) =
      ((l.commit key b ps).1.map (List.map (·.renumber (numberAt numbers)))).mapError .ledger := by
  have hrun := runsOn_of_validateBatch hv
  rw [h.rowsAt_eq hrun]
  unfold resolution
  rw [EventRow.mapM_decode_holding]
  rcases l.commit_cases key b ps with
    ⟨e, he, -⟩ | ⟨-, hfree, -⟩ | ⟨-, -, stored, hstored, hc⟩ | ⟨-, hno, n, hn, hc⟩
  · rw [hv] at he
    cases he
  · exact absurd hfree htaken
  -- the log holds the batch: it is found in the rows at its places
  · rw [hc]
    refine ⟨rfl, ?_⟩
    have hsame := (isResubmission_found_iff (ρ := numberAt numbers) h.coherent).2
      (hstored.found_eq.symm ▸ hstored)
    refine (if_pos hsame).trans ?_
    rw [hstored.found_eq]
    rfl
  -- the log holds something else there: the first row is the first place that is taken
  · rw [hc]
    refine ⟨rfl, ?_⟩
    have hdiffers : ¬isResubmission b ps
        ((l.found key ps).map (·.renumber (numberAt numbers))) = true := by
      intro hsame
      exact hno _ ((isResubmission_found_iff h.coherent).1 hsame)
    refine (if_neg hdiffers).trans ?_
    have hhead := hn.head_found h.coherent hrun.pairwise_lt
    rw [List.head?_map, Option.map_map]
    change Except.error (TableError.ledger (.concurrency key.name key.id
      (((l.found key ps).head?.map (·.sequence)).getD _))) = _
    rw [hhead]
    rfl

/-- The table mirrors what a commit makes of the log, and yields what the commit yields. -/
def Follows (numbers : List Nat) (l : EventLog) (key : StreamKey) (b : Uuid) (ps : List PendingEvent)
    (r : Except TableError (List CommittedEvent)) (w : Session) : Prop :=
  ∃ new, Mirrors (numbers ++ new) (l.commit key b ps).2 w.server ∧
    r = ((l.commit key b ps).1.map (List.map (·.renumber (numberAt (numbers ++ new))))).mapError
      .ledger

/-- An attempt to store a batch that is not too long follows the log. -/
theorem Mirrors.of_tryCommit {r : Except TableError (List CommittedEvent)}
    (h : Mirrors numbers l w.server) (hv : validateBatch ps = .ok ())
    (hps : ∀ p ∈ ps, p.FitsColumns) (hshort : argumentsPerRow * ps.length ≤ greatestWord16)
    (hattempt : RunsTo (Goes True) (tryCommit key b ps (draftsOf key b ps)) w r w') :
    Follows numbers l key b ps r w' := by
  have hrun := runsOn_of_validateBatch hv
  cases attempted_of_tryCommit hps hattempt with
  | gaveUp hreason _ => exact absurd (hreason trivial).1 (Nat.not_lt.2 hshort)
  | lost hcalm _ _ _ _ => exact absurd trivial hcalm
  | @stored w₁ _ globals hstands _ hdraws hshows =>
    -- the rows fit, so the places are free, and the log appends the batch as well
    have hevents := hstands.events_eq trivial
    have hfits := hshows.fits
    rw [map_toEventDraft_rowsOf_draftsOf key b hdraws.length, hevents, h.fits_iff hrun] at hfits
    rcases l.commit_cases key b ps with
      ⟨e, he, -⟩ | ⟨-, -, hc⟩ | ⟨-, htaken, -⟩ | ⟨-, -, n, hn, -⟩
    · rw [hv] at he
      cases he
    · refine ⟨globals, ?_, ?_⟩
      · rw [hc]
        refine h.append hfits hrun hdraws.length hdraws.ascending ?_ ?_ ?_
        · rw [hshows.next]
          exact hdraws.drawn
        · rw [hshows.next]
          exact hstands.next
        · rw [hshows.events, hevents]
      · rw [hc, ← h.length]
        change _ = Except.ok (List.map _ _)
        rw [map_renumber_number key b hdraws.length]
    · exact absurd hfits htaken
    · exact absurd hfits hn.not_freeFor
  | resolved hstands _ hrefused =>
    -- the rows do not fit, so a place is taken, and the log stays as it is
    have hevents := hstands.events_eq trivial
    have htaken := hrefused trivial
    rw [h.fits_iff hrun] at htaken
    have hmirror := h.of_events_eq hevents hstands.next
    obtain ⟨hsame, hdecided⟩ := hmirror.resolution_eq (b := b) hv htaken
    refine ⟨[], ?_, ?_⟩
    · rw [hsame, List.append_nil]
      exact hmirror
    · rw [hdecided, List.append_nil]

/-- **A commit of a batch that is not too long follows the log.** -/
theorem Mirrors.of_commit {strategy : RetryStrategy} {r : Except TableError (List CommittedEvent)}
    (h : Mirrors numbers l w.server) (hps : ∀ p ∈ ps, p.FitsColumns)
    (hshort : argumentsPerRow * ps.length ≤ greatestWord16)
    (hrun : RunsTo (Goes True) (TableStorage.commit strategy key b ps) w r w') :
    Follows numbers l key b ps r w' := by
  unfold TableStorage.commit at hrun
  cases hv : validateBatch ps with
  | error e =>
    rw [hv] at hrun
    cases hrun
    refine ⟨[], ?_, ?_⟩
    · rw [l.commit_of_error hv, List.append_nil]
      exact h
    · rw [l.commit_of_error hv]
      rfl
  | ok u =>
    rw [hv] at hrun
    rcases mapM_draft_cases key b ps with ⟨-, hdrafts⟩ | ⟨⟨p, hp, hwide⟩, -⟩
    · rw [hdrafts] at hrun
      refine of_retryTransient (Q := Follows numbers l key b ps) ?_ hrun
      intro r₁ w₁ hattempt
      have hfollows := h.of_tryCommit hv hps hshort hattempt
      refine ⟨hfollows, ?_⟩
      rintro f rfl
      obtain ⟨new, -, hr⟩ := hfollows
      -- a log fails as a ledger only
      cases hc : (l.commit key b ps).1 with
      | ok es =>
        rw [hc] at hr
        cases hr
      | error e =>
        rw [hc] at hr
        cases hr
    · exact absurd (hps p hp) hwide

/-! ### Reading and deleting -/

theorem tryLoad_eq {start : Nat} (hstart : start ≤ greatestLong) :
    tryLoad key start = (run (.selectStream key start)).bind fun rows =>
      Call.ofExcept (rows.mapM EventRow.decode) := by
  have hlow : toLong start "aggregate sequence number" = .ok (start : Int) := if_pos hstart
  change (ledger (toLong start _)).bind _ = _
  rw [hlow]
  rfl

theorem tryPage_eq {start size : Nat} (hstart : start ≤ greatestLong) :
    tryPage start size = (run (.selectGlobal start size)).bind fun rows =>
      Call.ofExcept (rows.mapM EventRow.decode) := by
  have hlow : toLong start "global sequence number" = .ok (start : Int) := if_pos hstart
  change (ledger (toLong start _)).bind _ = _
  rw [hlow]
  rfl

/-- **Reading a stream yields what the log has.** -/
theorem Mirrors.of_load {strategy : RetryStrategy} {start : Nat}
    {r : Except TableError (List CommittedEvent)} (h : Mirrors numbers l w.server)
    (hstart : start ≤ greatestLong)
    (hrun : RunsTo (Goes True) (retryTransient strategy true (tryLoad key start)) w r w') :
    Mirrors numbers l w'.server ∧
      r = .ok ((l.load key start).map (·.renumber (numberAt numbers))) := by
  refine of_retryTransient (Q := fun r w' => Mirrors numbers l w'.server ∧
    r = .ok ((l.load key start).map (·.renumber (numberAt numbers)))) ?_ hrun
  intro r₁ w₁ hattempt
  rw [tryLoad_eq hstart] at hattempt
  obtain ⟨rows, hrows, hrest⟩ := of_run_bind (by simp) (by simp) (fun _ => ⟨_, rfl⟩) hattempt
  obtain rfl := Except.ok.inj hrows
  obtain ⟨rfl, rfl⟩ := hrest.of_ofExcept
  rw [h.selectStream_eq, EventRow.mapM_decode_holding]
  refine ⟨⟨h, rfl⟩, ?_⟩
  rintro f ⟨⟩

/-- The events of a page are stored. -/
theorem Coherent.mem_all_of_mem_take (h : l.Coherent) (start size : Nat) :
    ∀ e ∈ (l.log.atLeast start).take size, e ∈ l.all := by
  intro e he
  have hfrom := List.mem_of_mem_take he
  rw [h.atLeast_log] at hfrom
  exact (List.mem_filter.1 hfrom).1

theorem page_eq {strategy : RetryStrategy} {start size : Nat} (hpos : size ≠ 0)
    (hsize : size ≤ greatestLong) :
    TableStorage.page strategy start size =
      (retryTransient strategy true (tryPage start size)).bind fun es =>
        .done ⟨es, nextOf es start⟩ := by
  unfold TableStorage.page
  rw [if_neg hpos, if_neg (Nat.not_lt.2 hsize)]
  rfl

/-- After the same events both scans stand at the same place. -/
theorem Mirrors.abreast_nextOf {s : Server} {es : List CommittedEvent} {start start' : Nat}
    (h : Mirrors numbers l s) (habreast : Abreast numbers start start') (hes : ∀ e ∈ es, e ∈ l.all) :
    Abreast numbers (nextOf es start) (nextOf (es.map (·.renumber (numberAt numbers))) start') := by
  unfold nextOf
  rw [List.getLast?_map]
  cases hlast : es.getLast? with
  | none => exact habreast
  | some e =>
    obtain ⟨hpos, hle⟩ := h.bounds (hes e (List.mem_of_getLast? hlast))
    exact .after hpos hle

/-- **A page shows what a page of the log shows**, and both scans go on at the same place. -/
theorem Mirrors.of_page {strategy : RetryStrategy} {start start' size : Nat}
    {r : Except TableError Page} (h : Mirrors numbers l w.server)
    (habreast : Abreast numbers start start') (hstart : start' ≤ greatestLong)
    (hsize : size ≤ greatestLong)
    (hrun : RunsTo (Goes True) (TableStorage.page strategy start' size) w r w') :
    Mirrors numbers l w'.server ∧
      ((∃ e, l.page start size = .error e ∧ r = .error (.ledger e)) ∨
        ∃ page next, l.page start size = .ok page ∧ Abreast numbers page.next next ∧
          r = .ok ⟨page.events.map (·.renumber (numberAt numbers)), next⟩) := by
  by_cases hzero : size = 0
  · subst hzero
    cases hrun
    exact ⟨h, .inl ⟨_, rfl, rfl⟩⟩
  · rw [page_eq hzero hsize] at hrun
    have hread : ∀ {r₁ : Except TableError (List CommittedEvent)} {w₁ : Session},
        RunsTo (Goes True) (retryTransient strategy true (tryPage start' size)) w r₁ w₁ →
        Mirrors numbers l w₁.server ∧ r₁ = .ok
          (((l.log.atLeast start).take size).map (·.renumber (numberAt numbers))) := by
      intro r₁ w₁ hretried
      refine of_retryTransient (Q := fun r₁ w₁ => Mirrors numbers l w₁.server ∧ r₁ = .ok
          (((l.log.atLeast start).take size).map (·.renumber (numberAt numbers)))) ?_ hretried
      intro r₂ w₂ hattempt
      rw [tryPage_eq hstart] at hattempt
      obtain ⟨rows, hrows, hrest⟩ := of_run_bind (by simp) (by simp) (fun _ => ⟨_, rfl⟩) hattempt
      obtain rfl := Except.ok.inj hrows
      obtain ⟨rfl, rfl⟩ := hrest.of_ofExcept
      rw [h.selectGlobal_eq habreast, Int.toNat_natCast, ← List.map_take,
        EventRow.mapM_decode_holding]
      refine ⟨⟨h, rfl⟩, ?_⟩
      rintro f ⟨⟩
    rcases hrun.of_bind with ⟨es, w₁, hretried, hrest⟩ | ⟨e, hretried, -⟩
    · obtain ⟨hmirror, hes⟩ := hread hretried
      obtain rfl := Except.ok.inj hes
      cases hrest
      have hnext := h.abreast_nextOf habreast (h.coherent.mem_all_of_mem_take start size)
      exact ⟨hmirror, .inr ⟨_, _, if_neg hzero, hnext, rfl⟩⟩
    · obtain ⟨-, hes⟩ := hread hretried
      cases hes

/-- **A stream is deleted as the log deletes it.** -/
theorem Mirrors.of_delete {strategy : RetryStrategy} {r : Except TableError Nat}
    (h : Mirrors numbers l w.server)
    (hrun : RunsTo (Goes True) (retryTransient strategy true (run (.deleteEvents key))) w r w') :
    Mirrors numbers (l.delete key).2 w'.server ∧ r = .ok (l.delete key).1 := by
  refine of_retryTransient (Q := fun r w' => Mirrors numbers (l.delete key).2 w'.server ∧
    r = .ok (l.delete key).1) ?_ hrun
  intro r₁ w₁ hattempt
  rw [← Call.bind_done (run _)] at hattempt
  obtain ⟨n, hn, hrest⟩ := of_run_bind (by simp) (by simp) (fun _ => ⟨_, rfl⟩) hattempt
  obtain rfl := Except.ok.inj hn
  cases hrest
  refine ⟨⟨h.delete key rfl rfl, congrArg Except.ok (h.length_inStream key)⟩, ?_⟩
  rintro f ⟨⟩

end EventLog

end EventLedger
