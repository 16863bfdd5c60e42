import EventLedger.Proofs.MemoryStorage
import EventLedger.Proofs.Tables.Places
import EventLedger.Proofs.Tables.Retry

/-!
# Storing a batch exactly once

A `COMMIT` whose acknowledgement is lost makes the next attempt run into the rows of the one before.
They stand at all places of the batch, so they cannot be inserted again, and whoever reads them finds
the batch.  Hence however the statements of a commit fail, and whatever others commit meanwhile, the
batch is stored in full or not at all, and never twice.

## Main definitions

* `Session.Progress key b ps w₀ w` — what a commit of the batch has done by now.
* `Session.StoresOnce key b ps s r w` — what a commit has done when it ends with `r`.

## Main results

* `Session.Attempted.ended` — what an attempt keeps, and what its result says.
* `Session.storesOnce_of_commit` — **a commit stores its batch exactly once, or not at all.**
-/

namespace EventLedger

open Call (RunsTo)
open TableStorage

namespace Session

/-- The batch is visible by one `COMMIT` of the session, which has made nothing else visible. -/
def StoredOnce (key : StreamKey) (b : Uuid) (ps : List PendingEvent) (w : Session) : Prop :=
  ∃ globals, globals.length = ps.length ∧ w.own = [rowsOf (draftsOf key b ps) globals]

/-- What a commit of the batch has done between `w₀` and `w`. -/
structure Progress (key : StreamKey) (b : Uuid) (ps : List PendingEvent) (w₀ w : Session) :
    Prop where
  inv : w.Inv
  kept : ∃ new, w.server.events = w₀.server.events ++ new
  done : w.own = [] ∨ StoredOnce key b ps w

/-- What a commit of the batch has done, when it ends with `r`. -/
structure StoresOnce (key : StreamKey) (b : Uuid) (ps : List PendingEvent) (s : Server)
    (r : Except Error (List CommittedEvent)) (w : Session) : Prop where
  /-- The commit has made the whole batch visible, by one `COMMIT`, or nothing; -/
  own : w.own = [] ∨ StoredOnce key b ps w
  /-- all other rows are those of others, and no two rows stand at one place; -/
  split : w.server.events.Perm (w.foreign ++ w.own.flatten)
  apart : Apart w.server.events
  /-- the rows that were there before are there, as they were. -/
  kept : ∃ new, w.server.events = s.events ++ new
  /-- Events that it yields are those that the table holds for the batch. -/
  held : ∀ es, r = .ok es → Holds w.server key b ps es
  /-- If it reports a conflict, it has made nothing visible, and the table does not hold the
  batch. -/
  conflict : ∀ e, r = .error e → e.isConflict = true →
    w.own = [] ∧ ∀ es, ¬Holds w.server key b ps es

variable {calm : Prop} {key : StreamKey} {b : Uuid} {ps : List PendingEvent} {w₀ w w₁ w' : Session}
  {globals : List Nat}

/-! ### What the rows at the places decide -/

/-- Rows that decide for the batch are the batch. -/
theorem holds_of_resolution {s : Server} {es : List CommittedEvent}
    (h : resolution key b ps (rowsAt s key ps) = .ok es) : Holds s key b ps es := by
  unfold resolution at h
  split at h
  · cases h
  · next stored hread =>
    split at h
    · next hsame =>
      obtain rfl := Except.ok.inj h
      exact ⟨hread, hsame⟩
    · cases h

theorem resolution_of_holds {s : Server} {es : List CommittedEvent} (h : Holds s key b ps es) :
    resolution key b ps (rowsAt s key ps) = .ok es := by
  unfold resolution
  rw [h.read]
  exact if_pos h.same

/-- A batch that the table holds is found there. -/
theorem exists_runsTo_resolveConflict {es : List CommittedEvent} (hps : ∀ p ∈ ps, p.FitsColumns)
    (h : Holds w.server key b ps es) :
    ∃ w', RunsTo (Goes calm) (resolveConflict key b ps) w (.ok es) w' := by
  have hselect : w.server.Executes 0 (.selectRange key (firstOf ps) (lastOf ps))
      (.ok (rowsAt w.server key ps)) w.server := rfl
  rw [resolveConflict_eq hps]
  refine ⟨?last, ?run⟩
  case run =>
    refine runsTo_run hselect ?_
    rw [resolution_of_holds h]
    exact .done es _

/-- Rows that decide otherwise are not the batch. -/
theorem not_holds_of_resolution {s : Server} {es : List CommittedEvent} {e : TableError}
    (h : resolution key b ps (rowsAt s key ps) = .error e) : ¬Holds s key b ps es := by
  intro hheld
  rw [resolution_of_holds hheld] at h
  cases h

/-! ### What a commit has done -/

theorem Progress.refl (hw : w.Inv) (hown : w.own = []) : Progress key b ps w w where
  inv := hw
  kept := ⟨[], (List.append_nil _).symm⟩
  done := .inl hown

/-- What the others do leaves what the commit has done. -/
theorem Progress.of_stands (h : Progress key b ps w₀ w) (hstands : Stands False w w') :
    Progress key b ps w₀ w' := by
  obtain ⟨new, hnew⟩ := h.kept
  obtain ⟨new', hnew'⟩ := hstands.exists_append
  refine ⟨hstands.inv h.inv, ⟨new ++ new', ?_⟩, ?_⟩
  · rw [hnew', hnew, List.append_assoc]
  · rcases h.done with hnothing | ⟨globals, hlength, hown⟩
    · exact .inl (hstands.own.trans hnothing)
    · exact .inr ⟨globals, hlength, hstands.own.trans hown⟩

/-- The rows of a batch that is stored are visible. -/
theorem Inv.mem_of_own (hw : w.Inv) (hown : w.own = [rowsOf (draftsOf key b ps) globals]) :
    ∀ r ∈ rowsOf (draftsOf key b ps) globals, r ∈ w.server.events := by
  intro r hr
  refine hw.split.mem_iff.2 (List.mem_append_right _ ?_)
  rw [hown, List.flatten_singleton]
  exact hr

/-- A batch that is visible cannot be put beside itself. -/
theorem not_fits_of_subset {rows : List EventRow} (hne : ps ≠ [])
    (hlength : globals.length = ps.length)
    (hrows : ∀ r ∈ rowsOf (draftsOf key b ps) globals, r ∈ rows) :
    ¬Server.Fits rows (draftsOf key b ps) := by
  intro hfits
  have hdrafts := map_toEventDraft_rowsOf_draftsOf key b hlength
  obtain ⟨p, hp⟩ := List.exists_mem_of_ne_nil ps hne
  have hd : EventDraft.of key b p ∈ draftsOf key b ps := List.mem_map_of_mem hp
  obtain ⟨r, hr, heq⟩ := List.mem_map.1 (hdrafts.symm ▸ hd)
  have hfree := hfits.free _ hd r (hrows r hr)
  rw [heq, EventDraft.collides_self] at hfree
  cases hfree

/-- Making the rows of the batch visible stores it once, since they cannot be there yet. -/
theorem Progress.of_shows (h : Progress key b ps w₀ w) (hne : ps ≠ [])
    (hlength : globals.length = ps.length)
    (hshows : w.Shows (rowsOf (draftsOf key b ps) globals) w') :
    Progress key b ps w₀ w' ∧ StoredOnce key b ps w' := by
  have hfits := hshows.fits
  rw [map_toEventDraft_rowsOf_draftsOf key b hlength] at hfits
  have hnothing : w.own = [] := by
    rcases h.done with hnothing | hstored
    · exact hnothing
    · -- the rows that an earlier attempt has made visible take the places
      obtain ⟨globals', hlength', hrows⟩ := hstored
      exact absurd hfits (not_fits_of_subset hne hlength' (h.inv.mem_of_own hrows))
  have hstored : StoredOnce key b ps w' := by
    refine ⟨globals, hlength, ?_⟩
    rw [hshows.own, hnothing]
    rfl
  obtain ⟨new, hnew⟩ := h.kept
  refine ⟨⟨hshows.inv h.inv, ?_, .inr hstored⟩, hstored⟩
  refine ⟨new ++ rowsOf (draftsOf key b ps) globals, ?_⟩
  rw [hshows.events, hnew, List.append_assoc]

/-- How a commit ends. -/
structure Ended (key : StreamKey) (b : Uuid) (ps : List PendingEvent) (w₀ : Session)
    (r : Except TableError (List CommittedEvent)) (w : Session) : Prop where
  progress : Progress key b ps w₀ w
  held : ∀ es, r = .ok es → Holds w.server key b ps es
  conflict : ∀ e, r = .error e → e.toError.isConflict = true →
    w.own = [] ∧ ∀ es, ¬Holds w.server key b ps es

theorem Ended.of_database (h : Progress key b ps w₀ w) (f : DatabaseFailure) :
    Ended key b ps w₀ (.error (.database f)) w where
  progress := h
  held := by
    rintro es ⟨⟩
  conflict := by
    rintro e ⟨⟩ he
    cases he

/-- **What an attempt keeps**, and what its result says. -/
theorem Attempted.ended {r : Except TableError (List CommittedEvent)}
    (h : Attempted False key b ps w r w') (hrun : RunsOn (ps.map (·.sequence)))
    (hprogress : Progress key b ps w₀ w) : Ended key b ps w₀ r w' := by
  have hne : ps ≠ [] := by
    rintro rfl
    obtain ⟨-, -, hne, -⟩ := hrun
    exact hne rfl
  cases h with
  | gaveUp _ hstands => exact .of_database (hprogress.of_stands hstands) _
  | @stored w₁ _ globals hstands _ hdraws hshows =>
    obtain ⟨hdone, hstored⟩ :=
      (hprogress.of_stands hstands).of_shows hne hdraws.length hshows
    refine ⟨hdone, ?_, ?_⟩
    · rintro es ⟨⟩
      refine holds_of_subset hdone.inv.apart hrun hdraws.length ?_
      intro r hr
      rw [hshows.events]
      exact List.mem_append_right _ hr
    · rintro e ⟨⟩
  | @lost w₁ w₂ _ globals f _ hstands hdraws hshows hrest =>
    obtain ⟨hdone, -⟩ := (hprogress.of_stands hstands).of_shows hne hdraws.length hshows
    exact .of_database (hdone.of_stands hrest) f
  | resolved hstands _ _ =>
    have hdone := hprogress.of_stands hstands
    refine ⟨hdone, fun es => holds_of_resolution, ?_⟩
    intro e he hconflict
    have hnot : ∀ es, ¬Holds w'.server key b ps es := fun es => not_holds_of_resolution he
    -- had an earlier attempt stored the batch, its rows would have been found
    rcases hdone.done with hnothing | ⟨globals, hlength, hrows⟩
    · exact ⟨hnothing, hnot⟩
    · exact absurd (holds_of_subset hdone.inv.apart hrun hlength (hdone.inv.mem_of_own hrows))
        (hnot _)

/-- Once begun, trying to store a batch ends as its last attempt has. -/
theorem ended_of_retryTransient {strategy : RetryStrategy}
    {r : Except TableError (List CommittedEvent)} (hps : ∀ p ∈ ps, p.FitsColumns)
    (hrun : RunsOn (ps.map (·.sequence))) (hown : w.own = []) (hw : w.Inv)
    (h : RunsTo (Goes False)
      (retryTransient strategy false (tryCommit key b ps (draftsOf key b ps))) w r w') :
    Ended key b ps w r w' := by
  refine RetryCall.of_attemptFrom (P := Progress key b ps w) (Q := Ended key b ps w) ?_ ?_ ?_ ?_
    _ 1 (.refl hw hown) h
  · intro hheeds
    cases hheeds
  · intro w₁ q a w₂ hq ha hprogress
    exact hprogress.of_stands (ha.moves hq).stands
  · rintro w₁ w₂ n d e rfl hended
    exact hended
  · intro w₁ r₁ w₂ hprogress hattempt
    have hended := (attempted_of_tryCommit hps hattempt).ended hrun hprogress
    exact ⟨hended, fun _ _ _ => hended.progress⟩

/-! ### The commit -/

theorem inv_start {s : Server} (hs : Apart s.events) : (start s).Inv where
  apart := hs
  split := by
    change s.events.Perm (s.events ++ [].flatten)
    rw [List.flatten_nil, List.append_nil]

/-- A commit that is refused before it sends a statement. -/
theorem StoresOnce.of_refused {s : Server} {e : Error} (hs : Apart s.events)
    (he : e.isConflict = false) : StoresOnce key b ps s (.error e) (start s) where
  own := .inl rfl
  split := (inv_start hs).split
  apart := hs
  kept := ⟨[], (List.append_nil _).symm⟩
  held := by
    rintro es ⟨⟩
  conflict := by
    rintro _ ⟨⟩ hconflict
    rw [he] at hconflict
    cases hconflict

theorem StoresOnce.of_ended {s : Server} {r : Except TableError (List CommittedEvent)}
    (h : Ended key b ps (start s) r w) :
    StoresOnce key b ps s (r.mapError TableError.toError) w where
  own := h.progress.done
  split := h.progress.inv.split
  apart := h.progress.inv.apart
  kept := h.progress.kept
  held := by
    intro es hes
    cases r with
    | error e => cases hes
    | ok es' =>
      obtain rfl := Except.ok.inj hes
      exact h.held es' rfl
  conflict := by
    intro e he hconflict
    cases r with
    | ok es => cases he
    | error e' =>
      obtain rfl := Except.error.inj he
      exact h.conflict e' rfl hconflict

theorem isConflict_of_validateBatch {e : Error} (h : validateBatch ps = .error e) :
    e.isConflict = false := by
  unfold validateBatch at h
  split at h
  · cases h
  · next fault _ =>
    obtain rfl := Except.error.inj h
    cases fault <;> rfl

/-- **A commit stores its batch exactly once, or not at all**, however its statements fail. -/
theorem storesOnce_of_commit (strategy : RetryStrategy) {s : Server} (hs : Apart s.events)
    {r : Except TableError (List CommittedEvent)}
    (h : RunsTo (Goes False) (commit strategy key b ps) (start s) r w) :
    StoresOnce key b ps s (r.mapError TableError.toError) w := by
  unfold commit at h
  cases hv : validateBatch ps with
  | error e =>
    rw [hv] at h
    cases h
    exact .of_refused hs (isConflict_of_validateBatch hv)
  | ok u =>
    rw [hv] at h
    rcases mapM_draft_cases key b ps with ⟨hps, hdrafts⟩ | ⟨-, reason, hdrafts⟩
    · rw [hdrafts] at h
      exact .of_ended
        (ended_of_retryTransient hps (EventLog.runsOn_of_validateBatch hv) rfl (inv_start hs) h)
    · rw [hdrafts] at h
      cases h
      exact .of_refused hs rfl

/-! ### A lost acknowledgement -/

/-- An attempt that runs into the rows of its own batch finds it stored. -/
theorem exists_runsTo_found (calm : Prop) {es : List CommittedEvent} (hps : ∀ p ∈ ps, p.FitsColumns)
    (hshort : argumentsPerRow * ps.length ≤ greatestWord16)
    (hfits : ¬Server.Fits w.server.events (draftsOf key b ps)) (h : Holds w.server key b ps es) :
    ∃ w', RunsTo (Goes calm) (tryCommit key b ps (draftsOf key b ps)) w (.ok es) w' := by
  have hrows : (w.locked.server.transaction 0).rows = [] := pending_locked w
  have hinsert : w.locked.server.Inserts 0 (draftsOf key b ps)
      (.error (.refused (some DatabaseFailure.uniqueViolation) "duplicate key"))
      { w.locked.server with nextGlobal := w.server.nextGlobal } := by
    refine .refused ?_ (Int.le_refl _)
    rw [hrows, List.append_nil]
    exact hfits
  let w₁ := w.locked.after (.insertEvents (draftsOf key b ps))
    { w.locked.server with nextGlobal := w.server.nextGlobal }
  let w₂ := w₁.after .rollback (w₁.server.withoutTransaction 0)
  have hrollback : w₁.server.Executes 0 .rollback (.ok ()) w₂.server := rfl
  have hheld : Holds w₂.server key b ps es := ⟨h.read, h.same⟩
  obtain ⟨w', hfound⟩ := exists_runsTo_resolveConflict hps hheld
  exact ⟨w', runsTo_of_settle hshort (.executed hinsert rfl) (runsTo_run hrollback hfound)⟩

/-- A commit whose first attempt is acknowledged to nobody yields the events that it has stored. -/
theorem storesOnce_of_lost_acknowledgement : ∃ es w,
    RunsTo (Goes False) (commit (.transient 2 .standard) MemoryStorage.sampleKey (.ofNat 1)
      (MemoryStorage.sampleBatch [1])) (start {}) (.ok es) w ∧ es.length = 1 ∧
    StoresOnce MemoryStorage.sampleKey (.ofNat 1) (MemoryStorage.sampleBatch [1]) {} (.ok es) w := by
  let key := MemoryStorage.sampleKey
  let ps := MemoryStorage.sampleBatch [1]
  have hps : ∀ p ∈ ps, p.FitsColumns := by
    intro p hp
    obtain rfl := List.mem_singleton.1 hp
    exact ⟨by decide, by decide⟩
  have hshort : argumentsPerRow * ps.length ≤ greatestWord16 := by decide
  have hempty : Server.Fits [] (draftsOf key (.ofNat 1) ps) := by
    refine ⟨?_, List.pairwise_singleton _ _⟩
    intro d _ r hr
    cases hr
  have hdrawn : ∀ g : Nat, g ∈ [1] → (start {}).server.nextGlobal ≤ (g : Int) ∧ (g : Int) < 2 := by
    decide
  obtain ⟨w₁, hlost, hevents⟩ := exists_runsTo_lost (start {}) (.disconnected "connection reset") id
    hshort hempty rfl (List.pairwise_singleton _ _) hdrawn (by decide)
  have hsubset : ∀ r ∈ rowsOf (draftsOf key (.ofNat 1) ps) [1], r ∈ w₁.server.events := by
    intro r hr
    rw [hevents]
    exact List.mem_append_right _ hr
  have hapart : Apart w₁.server.events := by
    rw [hevents]
    exact Server.Fits.apart_append hempty .nil
  have hheld := holds_of_subset hapart ⟨1, Nat.le_refl 1, by decide, rfl⟩ rfl hsubset
  have htaken := not_fits_of_subset (List.cons_ne_nil _ _) rfl hsubset
  obtain ⟨w₂, hfound⟩ := exists_runsTo_found False hps hshort htaken hheld
  have hrun : RunsTo (Goes False) (commit (.transient 2 .standard) key (.ofNat 1) ps) (start {})
      (.ok (List.zipWith (·.commit key (.ofNat 1) ·) ps [1])) w₂ := by
    change RunsTo _ (RetryCall.attemptFrom (.transient 2 .standard) false
      (tryCommit key (.ofNat 1) ps (draftsOf key (.ofNat 1) ps)) 1 1) _ _ _
    exact RetryCall.runsTo_of_error hlost rfl rfl ⟨w₁, .refl w₁, rfl⟩
      (RetryCall.runsTo_of_ok hfound)
  -- the general theorem says the rest of this run
  have hstart : Apart ({} : Server).events := List.Pairwise.nil
  exact ⟨_, w₂, hrun, rfl, storesOnce_of_commit _ hstart hrun⟩

end Session

end EventLedger
