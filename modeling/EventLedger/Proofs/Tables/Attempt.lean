import EventLedger.Proofs.Tables.Effects

/-!
# One attempt to store a batch

An attempt opens a transaction, takes the lock, inserts the rows and commits.  It is given up at the
statement that fails; the rows that it inserted become visible by its `COMMIT` only, which may have
been carried out also if it is reported as failed.  If a place is taken, the rows that stand at the
places of the batch decide.

## Main definitions

* `TableStorage.rowsAt`, `TableStorage.resolution` — the rows at the places of a batch, and what they
  decide.
* `Session.Attempted` — how an attempt may end.

## Main results

* `Session.attempted_of_tryCommit` — **an attempt ends in one of these ways.**
* `Session.exists_runsTo_stored`, `Session.exists_runsTo_lost` — an attempt may store the batch, with
  or without an acknowledgement.
-/

namespace EventLedger

open Call (RunsTo)

namespace TableStorage

/-- The number of the first event of a batch. -/
def firstOf (ps : List PendingEvent) : Nat := (ps.head?.map (·.sequence)).getD 0

/-- The number of the last event of a batch. -/
def lastOf (ps : List PendingEvent) : Nat := (ps.getLast?.map (·.sequence)).getD 0

/-- The rows at the places of a batch, from the first to the last. -/
def rowsAt (s : Server) (key : StreamKey) (ps : List PendingEvent) : List EventRow :=
  s.bySequence fun r => r.inStream key && firstOf ps ≤ r.sequence && r.sequence ≤ lastOf ps

/-- What the rows at its places decide about a batch: it is stored already, or in conflict. -/
def resolution (key : StreamKey) (b : Uuid) (ps : List PendingEvent) (rows : List EventRow) :
    Except TableError (List CommittedEvent) :=
  match rows.mapM EventRow.decode with
  | .error e => .error e
  | .ok stored =>
    if isResubmission b ps stored then .ok stored
    else .error (.ledger (.concurrency key.name key.id
      ((stored.head?.map (·.sequence)).getD (firstOf ps))))

/-- The rows of a batch, without their global numbers. -/
def draftsOf (key : StreamKey) (b : Uuid) (ps : List PendingEvent) : List EventDraft :=
  ps.map (.of key b)

theorem length_draftsOf (key : StreamKey) (b : Uuid) (ps : List PendingEvent) :
    (draftsOf key b ps).length = ps.length := List.length_map _

theorem map_toEventDraft_rowsOf_draftsOf (key : StreamKey) (b : Uuid) {ps : List PendingEvent}
    {globals : List Nat} (hlength : globals.length = ps.length) :
    (rowsOf (draftsOf key b ps) globals).map (·.toEventDraft) = draftsOf key b ps :=
  map_toEventDraft_rowsOf (hlength.trans (length_draftsOf key b ps).symm)

theorem firstOf_le {ps : List PendingEvent} (hps : ∀ p ∈ ps, p.FitsColumns) :
    firstOf ps ≤ greatestLong := by
  cases ps with
  | nil => exact Nat.zero_le _
  | cons p ps => exact (hps p List.mem_cons_self).1

theorem lastOf_le {ps : List PendingEvent} (hps : ∀ p ∈ ps, p.FitsColumns) :
    lastOf ps ≤ greatestLong := by
  unfold lastOf
  cases hlast : ps.getLast? with
  | none => exact Nat.zero_le _
  | some p => exact (hps p (List.mem_of_getLast? hlast)).1

/-- A batch brings too many arguments if it has more than 8191 events. -/
theorem checkArguments_draftsOf (key : StreamKey) (b : Uuid) (ps : List PendingEvent) :
    checkArguments (draftsOf key b ps) =
      if greatestWord16 < argumentsPerRow * ps.length
        then .error (.tooManyArguments (argumentsPerRow * ps.length))
        else .ok () := by
  rw [checkArguments, length_draftsOf]

/-- What an attempt does when its insertion was answered. -/
def settle (key : StreamKey) (b : Uuid) (ps : List PendingEvent) :
    Except DatabaseFailure (List Int) → TableCall (List CommittedEvent)
  | .ok globals => finish key b ps globals
  | .error f =>
    if f.isUniqueViolation then (run .rollback).bind fun _ => resolveConflict key b ps else giveUp f

theorem tryCommit_eq (key : StreamKey) (b : Uuid) (ps : List PendingEvent)
    (drafts : List EventDraft) :
    tryCommit key b ps drafts = (run .begin).bind fun _ => (runInside .lock).bind fun _ =>
      match checkArguments drafts with
      | .error f => giveUp f
      | .ok _ => (send (.insertEvents drafts)).bind (settle key b ps) := by
  unfold tryCommit
  refine congrArg (Call.bind (run .begin)) (funext fun _ => ?_)
  refine congrArg (Call.bind (runInside .lock)) (funext fun _ => ?_)
  cases checkArguments drafts with
  | error f => rfl
  | ok u =>
    refine congrArg (Call.bind (send (.insertEvents drafts))) (funext fun a => ?_)
    cases a with
    | ok globals => rfl
    | error f => rfl

end TableStorage

namespace Session

open TableStorage

/-- Global numbers that were drawn from `w` to `w'` for the events of a batch. -/
structure Draws (w : Session) (ps : List PendingEvent) (globals : List Nat) (w' : Session) :
    Prop where
  length : globals.length = ps.length
  ascending : globals.Pairwise (· < ·)
  drawn : ∀ g ∈ globals, w.server.nextGlobal ≤ (g : Int) ∧ (g : Int) < w'.server.nextGlobal

/-- How an attempt to store a batch may end. -/
inductive Attempted (calm : Prop) (key : StreamKey) (b : Uuid) (ps : List PendingEvent)
    (w : Session) : Except TableError (List CommittedEvent) → Session → Prop
  /-- A statement failed, or the batch is too long for one. -/
  | gaveUp {w' : Session} {f : DatabaseFailure}
      (hreason : calm → greatestWord16 < argumentsPerRow * ps.length ∧
        f = .tooManyArguments (argumentsPerRow * ps.length))
      (hstands : Stands calm w w') : Attempted calm key b ps w (.error (.database f)) w'
  /-- The batch was stored. -/
  | stored {w₁ w' : Session} {globals : List Nat} (hstands : Stands calm w w₁)
      (hshort : argumentsPerRow * ps.length ≤ greatestWord16) (hdraws : Draws w ps globals w₁)
      (hshows : w₁.Shows (rowsOf (draftsOf key b ps) globals) w') :
      Attempted calm key b ps w (.ok (List.zipWith (·.commit key b ·) ps globals)) w'
  /-- The batch was stored, but that got lost. -/
  | lost {w₁ w₂ w' : Session} {globals : List Nat} {f : DatabaseFailure} (hcalm : ¬calm)
      (hstands : Stands calm w w₁) (hdraws : Draws w ps globals w₁)
      (hshows : w₁.Shows (rowsOf (draftsOf key b ps) globals) w₂) (hrest : Stands calm w₂ w') :
      Attempted calm key b ps w (.error (.database f)) w'
  /-- A place was said to be taken, and the rows at the places decided. -/
  | resolved {w' : Session} (hstands : Stands calm w w')
      (hshort : argumentsPerRow * ps.length ≤ greatestWord16)
      (hrefused : calm → ¬Server.Fits w.server.events (draftsOf key b ps)) :
      Attempted calm key b ps w (resolution key b ps (rowsAt w'.server key ps)) w'

variable {calm : Prop} {key : StreamKey} {b : Uuid} {ps : List PendingEvent} {w w₁ w' : Session}
  {r : Except TableError (List CommittedEvent)}

/-- What happened before an attempt belongs to it, if nothing was made visible. -/
theorem Attempted.of_stands (h : Attempted calm key b ps w₁ r w') (hstands : Stands calm w w₁) :
    Attempted calm key b ps w r w' := by
  have hdraws : ∀ {globals w₂}, Draws w₁ ps globals w₂ → Draws w ps globals w₂ := by
    intro globals w₂ hd
    refine ⟨hd.length, hd.ascending, ?_⟩
    intro g hg
    exact ⟨Int.le_trans hstands.next (hd.drawn g hg).1, (hd.drawn g hg).2⟩
  cases h with
  | gaveUp hreason h => exact .gaveUp hreason (hstands.trans h)
  | stored h hshort hd hshows => exact .stored (hstands.trans h) hshort (hdraws hd) hshows
  | lost hcalm h hd hshows hrest => exact .lost hcalm (hstands.trans h) (hdraws hd) hshows hrest
  | resolved h hshort hrefused =>
    refine .resolved (hstands.trans h) hshort ?_
    intro hcalm
    rw [← hstands.events_eq hcalm]
    exact hrefused hcalm

/-! ### The parts of an attempt -/

/-- Reading the rows at the places of a batch, and what they decide. -/
theorem resolveConflict_eq (hps : ∀ p ∈ ps, p.FitsColumns) :
    resolveConflict key b ps = (run (.selectRange key (firstOf ps) (lastOf ps))).bind fun rows =>
      Call.ofExcept (resolution key b ps rows) := by
  have hlow : toLong (firstOf ps) "aggregate sequence number" = .ok (firstOf ps : Int) :=
    if_pos (firstOf_le hps)
  have hhigh : toLong (lastOf ps) "aggregate sequence number" = .ok (lastOf ps : Int) :=
    if_pos (lastOf_le hps)
  have hdecide : ∀ rows : List EventRow,
      ((Call.ofExcept (rows.mapM EventRow.decode)).bind fun stored =>
        if isResubmission b ps stored then .done stored
        else .failed (.ledger (.concurrency key.name key.id
          ((stored.head?.map (·.sequence)).getD (firstOf ps)))) : TableCall (List CommittedEvent)) =
      Call.ofExcept (resolution key b ps rows) := by
    intro rows
    unfold resolution
    cases rows.mapM EventRow.decode with
    | error e => rfl
    | ok stored =>
      change (if isResubmission b ps stored then _ else _) =
        Call.ofExcept (if isResubmission b ps stored then _ else _)
      by_cases h : isResubmission b ps stored
      · rw [if_pos h, if_pos h]
        rfl
      · rw [if_neg h, if_neg h]
        rfl
  change (ledger (toLong (firstOf ps) _)).bind _ = _
  rw [hlow]
  change (ledger (toLong (lastOf ps) _)).bind _ = _
  rw [hhigh]
  exact congrArg _ (funext hdecide)

/-- The rows at the places of a batch decide, unless reading them fails. -/
theorem cases_of_resolveConflict (hps : ∀ p ∈ ps, p.FitsColumns)
    (h : RunsTo (Goes calm) (resolveConflict key b ps) w r w') :
    Stands calm w w' ∧ (r = resolution key b ps (rowsAt w'.server key ps) ∨
      ¬calm ∧ ∃ f, r = .error (.database f)) := by
  rw [resolveConflict_eq hps] at h
  rcases cases_of_run_bind (by simp) (by simp) (fun _ => ⟨_, rfl⟩) h with
    ⟨w₁, rows, hmoves, hrows, hrest⟩ | ⟨hcalm, hstands, hfailed⟩
  · obtain ⟨rfl, rfl⟩ := hrest.of_ofExcept
    obtain rfl := Except.ok.inj hrows
    -- the selection leaves the server as it is
    exact ⟨hmoves.stands.trans (stands_after (by simp) rfl (Int.le_refl _)), .inl rfl⟩
  · exact ⟨hstands, .inr ⟨hcalm, hfailed⟩⟩

/-- A transaction that was opened is empty. -/
theorem pending_begun (w : Session) :
    (w.after .begin (w.server.perform 0 .begin).2).pending = [] :=
  congrArg Transaction.rows (Server.transaction_withTransaction w.server 0 {})

/-- Taking the lock leaves the transaction's rows. -/
theorem pending_of_lock {a : Statement.lock.Answer} (h : w.Answers calm .lock a w') :
    a = .ok () ∧ w'.pending = w.pending ∨ ¬calm ∧ ∃ f, a = .error f := by
  rcases h.performed (by simp) with ⟨rfl, rfl⟩ | herror
  · refine .inl ⟨rfl, ?_⟩
    exact (congrArg Transaction.rows (Server.transaction_withTransaction w.server 0 _)).trans rfl
  · exact .inr herror

/-- Inserting the rows of a batch into an empty transaction. -/
theorem cases_of_insertEvents {a : (Statement.insertEvents (draftsOf key b ps)).Answer}
    (h : w.Answers calm (.insertEvents (draftsOf key b ps)) a w') (hpending : w.pending = []) :
    Stands calm w w' ∧
      ((∃ globals : List Nat, a = .ok (globals.map Nat.cast) ∧ Draws w ps globals w' ∧
          w'.pending = rowsOf (draftsOf key b ps) globals ∧
          Server.Fits w'.server.events (draftsOf key b ps)) ∨
        ∃ f, a = .error f ∧
          (calm → f.isUniqueViolation = true ∧
            ¬Server.Fits w'.server.events (draftsOf key b ps))) := by
  refine ⟨h.stands (by simp) (by simp), ?_⟩
  have hrows : w.server.events ++ (w.server.transaction 0).rows = w.server.events := by
    rw [show (w.server.transaction 0).rows = [] from hpending, List.append_nil]
  cases h with
  | executed h hw =>
    subst hw
    cases h with
    | @stored globals next hfits hlength hascending hdrawn hnext =>
      rw [hrows] at hfits
      rw [length_draftsOf] at hlength
      refine .inl ⟨globals, rfl, ⟨hlength, hascending, hdrawn⟩, ?_, hfits⟩
      refine (congrArg Transaction.rows (Server.transaction_withTransaction _ 0 _)).trans ?_
      exact congrArg (· ++ rowsOf (draftsOf key b ps) globals) hpending
    | refused hfits hnext =>
      -- the transaction is empty, so it is a visible row that stands in the way
      rw [hrows] at hfits
      exact .inr ⟨_, rfl, fun _ => ⟨rfl, hfits⟩⟩
  | failed hcalm ha _ _ _ => exact .inr ⟨_, ha, fun hc => absurd hc hcalm⟩
  | lost _ _ hq _ => cases hq

/-- Closing the transaction in which the rows of a batch were inserted. -/
theorem attempted_of_finish {globals : List Nat} {w₀ : Session} (hstands : Stands calm w₀ w)
    (hshort : argumentsPerRow * ps.length ≤ greatestWord16) (hdraws : Draws w₀ ps globals w)
    (hpending : w.pending = rowsOf (draftsOf key b ps) globals)
    (hfits : Server.Fits w.server.events (draftsOf key b ps))
    (h : RunsTo (Goes calm) (finish key b ps (globals.map Nat.cast)) w r w') :
    Attempted calm key b ps w₀ r w' := by
  have hdrafts : (rowsOf (draftsOf key b ps) globals).map (·.toEventDraft) = draftsOf key b ps :=
    map_toEventDraft_rowsOf_draftsOf key b hdraws.length
  obtain ⟨w₁, w₂, hmoves, hcases⟩ := cases_of_runInside_bind h
  -- what the others show meanwhile leaves the places of the transaction's rows free
  have hmoved := hstands.trans hmoves.stands
  have hpending₁ : w₁.pending = rowsOf (draftsOf key b ps) globals := hmoves.pending.trans hpending
  have hfits₁ : Server.Fits w₁.server.events (w₁.pending.map (·.toEventDraft)) := by
    obtain ⟨new, hevents, -, hnew⟩ := hmoves.rows
    rw [hpending₁, hevents]
    refine Server.Fits.append ?_ (hpending ▸ hnew)
    rw [hdrafts]
    exact hfits
  have hdraws₁ : Draws w₀ ps globals w₁ := by
    refine ⟨hdraws.length, hdraws.ascending, ?_⟩
    intro g hg
    obtain ⟨hlow, hhigh⟩ := hdraws.drawn g hg
    exact ⟨hlow, Int.lt_of_lt_of_le hhigh hmoves.next⟩
  rcases hcases with ⟨u, ha, hrest⟩ | ⟨f, ha, hrest, rfl⟩
  · rw [committed_eq hdraws.length] at hrest
    obtain ⟨rfl, rfl⟩ := hrest.of_ofExcept
    rcases ha.cases_of_commit hfits₁ with ⟨hshows, -⟩ | ⟨-, -, f, hf⟩
    · rw [hpending₁] at hshows
      exact .stored hmoved hshort hdraws₁ hshows
    · cases hf
  · rcases ha.cases_of_commit hfits₁ with ⟨hshows, ha | ⟨hcalm, -⟩⟩ | ⟨hnothing, hcalm, -⟩
    · cases ha
    · rw [hpending₁] at hshows
      exact .lost hcalm hmoved hdraws₁ hshows hrest
    · exact .gaveUp (absurd · hcalm) ((hmoved.trans hnothing).trans hrest)

/-! ### The attempt -/

/-- What follows the insertion of a batch, whose rows were refused for a place that is taken. -/
theorem attempted_of_rollback (hps : ∀ p ∈ ps, p.FitsColumns)
    (hshort : argumentsPerRow * ps.length ≤ greatestWord16)
    (hrefused : calm → ¬Server.Fits w.server.events (draftsOf key b ps))
    (h : RunsTo (Goes calm) ((run .rollback).bind fun _ => resolveConflict key b ps) w r w') :
    Attempted calm key b ps w r w' := by
  rcases cases_of_run_bind (by simp) (by simp) (fun _ => ⟨_, rfl⟩) h with
    ⟨w₁, u, hmoves, -, hrest⟩ | ⟨hcalm, hstands, f, rfl⟩
  · have hstands : Stands calm w (w₁.after .rollback (w₁.server.perform 0 .rollback).2) :=
      hmoves.stands.trans (stands_after (by simp) rfl (Int.le_refl _))
    obtain ⟨hread, hr⟩ := cases_of_resolveConflict hps hrest
    rcases hr with rfl | ⟨hcalm, f, rfl⟩
    · exact .resolved (hstands.trans hread) hshort hrefused
    · exact .gaveUp (absurd · hcalm) (hstands.trans hread)
  · exact .gaveUp (absurd · hcalm) hstands

/-- What follows the insertion of a batch. -/
theorem attempted_of_settle (hps : ∀ p ∈ ps, p.FitsColumns)
    (hshort : argumentsPerRow * ps.length ≤ greatestWord16) (hpending : w.pending = [])
    {a : (Statement.insertEvents (draftsOf key b ps)).Answer}
    (ha : w.Answers calm (.insertEvents (draftsOf key b ps)) a w₁)
    (h : RunsTo (Goes calm) (settle key b ps a) w₁ r w') : Attempted calm key b ps w r w' := by
  obtain ⟨hstands, hcases⟩ := cases_of_insertEvents ha hpending
  rcases hcases with ⟨globals, rfl, hdraws, hrows, hfits⟩ | ⟨f, rfl, hviolates⟩
  · exact attempted_of_finish hstands hshort hdraws hrows hfits h
  · change RunsTo _ (if f.isUniqueViolation then _ else _) _ _ _ at h
    -- a session that is not calm may be told of a violation where there is none
    split at h
    · refine Attempted.of_stands ?_ hstands
      exact attempted_of_rollback hps hshort (fun hcalm => (hviolates hcalm).2) h
    · next hno =>
      obtain ⟨hgone, rfl⟩ := stands_of_giveUp h
      exact .gaveUp (fun hcalm => absurd (hviolates hcalm).1 hno) (hstands.trans hgone)

/-- Inserting the batch into the empty transaction, and what follows. -/
theorem attempted_of_insert (hps : ∀ p ∈ ps, p.FitsColumns)
    (hshort : argumentsPerRow * ps.length ≤ greatestWord16) (hempty : w.pending = [])
    (h : RunsTo (Goes calm) ((send (.insertEvents (draftsOf key b ps))).bind (settle key b ps))
      w r w') : Attempted calm key b ps w r w' := by
  obtain ⟨a, w₁, w₂, hmoves, ha, hrest⟩ := of_send_bind h
  refine Attempted.of_stands ?_ hmoves.stands
  exact attempted_of_settle hps hshort (hmoves.pending.trans hempty) ha hrest

/-- What follows the opening of the transaction. -/
theorem attempted_of_lock (hps : ∀ p ∈ ps, p.FitsColumns) (hempty : w.pending = [])
    (h : RunsTo (Goes calm) ((runInside .lock).bind fun _ =>
      match checkArguments (draftsOf key b ps) with
      | .error f => giveUp f
      | .ok _ => (send (.insertEvents (draftsOf key b ps))).bind (settle key b ps)) w r w') :
    Attempted calm key b ps w r w' := by
  obtain ⟨w₁, w₂, hmoves, hcases⟩ := cases_of_runInside_bind h
  rcases hcases with ⟨x, ha, hrest⟩ | ⟨f, ha, hgone, rfl⟩
  · refine Attempted.of_stands ?_ (hmoves.stands.trans (ha.stands (by simp) (by simp)))
    rw [checkArguments_draftsOf] at hrest
    by_cases hlong : greatestWord16 < argumentsPerRow * ps.length
    · rw [if_pos hlong] at hrest
      obtain ⟨hgone, rfl⟩ := stands_of_giveUp hrest
      exact .gaveUp (fun _ => ⟨hlong, rfl⟩) hgone
    · rw [if_neg hlong] at hrest
      rcases pending_of_lock ha with ⟨-, hpending⟩ | ⟨-, f, hf⟩
      · rw [hmoves.pending, hempty] at hpending
        exact attempted_of_insert hps (Nat.le_of_not_lt hlong) hpending hrest
      · cases hf
  · have hfailed := hmoves.stands.trans (ha.stands (by simp) (by simp))
    rcases pending_of_lock ha with ⟨hok, -⟩ | ⟨hcalm, -⟩
    · cases hok
    · exact .gaveUp (absurd · hcalm) (hfailed.trans hgone)

/-- **An attempt to store a batch ends in one of these ways.** -/
theorem attempted_of_tryCommit (hps : ∀ p ∈ ps, p.FitsColumns)
    (h : RunsTo (Goes calm) (tryCommit key b ps (draftsOf key b ps)) w r w') :
    Attempted calm key b ps w r w' := by
  rw [tryCommit_eq] at h
  rcases cases_of_run_bind (by simp) (by simp) (fun _ => ⟨_, rfl⟩) h with
    ⟨w₁, u, hmoves, -, hrest⟩ | ⟨hcalm, hstands, f, rfl⟩
  · have hopened : Stands calm w (w₁.after .begin (w₁.server.perform 0 .begin).2) :=
      hmoves.stands.trans (stands_after (by simp) rfl (Int.le_refl _))
    refine Attempted.of_stands ?_ hopened
    exact attempted_of_lock hps (pending_begun w₁) hrest
  · exact .gaveUp (absurd · hcalm) hstands

/-! ### Attempts that there are -/

variable {globals : List Nat}

/-- A session that has opened a transaction and taken the lock. -/
def locked (w : Session) : Session :=
  (w.after .begin (w.server.perform 0 .begin).2).after .lock
    ((w.server.perform 0 .begin).2.perform 0 .lock).2

theorem pending_locked (w : Session) : w.locked.pending = [] := by
  change ((Server.withTransaction _ 0 _).transaction 0).rows = []
  rw [Server.transaction_withTransaction]
  exact pending_begun w

/-- An attempt goes on from a locked session as the answer to its insertion has it. -/
theorem runsTo_of_settle {a : Except DatabaseFailure (List Int)}
    (hshort : argumentsPerRow * ps.length ≤ greatestWord16)
    (ha : w.locked.Answers calm (.insertEvents (draftsOf key b ps)) a w₁)
    (h : RunsTo (Goes calm) (settle key b ps a) w₁ r w') :
    RunsTo (Goes calm) (tryCommit key b ps (draftsOf key b ps)) w r w' := by
  have hbegin : w.server.Executes 0 .begin (.ok ()) (w.server.perform 0 .begin).2 := rfl
  have hlock : (w.server.perform 0 .begin).2.Executes 0 .lock (.ok ())
      ((w.server.perform 0 .begin).2.perform 0 .lock).2 := rfl
  rw [tryCommit_eq, checkArguments_draftsOf, if_neg (Nat.not_lt.2 hshort)]
  exact runsTo_run hbegin (runsTo_runInside hlock (runsTo_send ha h))

/-- Rows that fit are inserted, under any numbers that the server may draw. -/
theorem exists_inserts_locked {next : Int}
    (hfits : Server.Fits w.server.events (draftsOf key b ps)) (hlength : globals.length = ps.length)
    (hascending : globals.Pairwise (· < ·))
    (hdrawn : ∀ g ∈ globals, w.server.nextGlobal ≤ (g : Int) ∧ (g : Int) < next)
    (hnext : w.server.nextGlobal ≤ next) :
    ∃ s', w.locked.server.Inserts 0 (draftsOf key b ps) (.ok (globals.map Nat.cast)) s' ∧
      s'.events = w.server.events ∧
      (s'.transaction 0).rows = rowsOf (draftsOf key b ps) globals := by
  have hrows : (w.locked.server.transaction 0).rows = [] := pending_locked w
  refine ⟨_, .stored ?_ (hlength.trans (length_draftsOf key b ps).symm) hascending hdrawn hnext,
    rfl, ?_⟩
  · rw [hrows, List.append_nil]
    exact hfits
  · rw [Server.transaction_withTransaction, hrows]
    rfl

/-- An attempt may store the batch. -/
theorem exists_runsTo_stored (calm : Prop) (w : Session) {next : Int}
    (hshort : argumentsPerRow * ps.length ≤ greatestWord16)
    (hfits : Server.Fits w.server.events (draftsOf key b ps)) (hlength : globals.length = ps.length)
    (hascending : globals.Pairwise (· < ·))
    (hdrawn : ∀ g ∈ globals, w.server.nextGlobal ≤ (g : Int) ∧ (g : Int) < next)
    (hnext : w.server.nextGlobal ≤ next) :
    ∃ w', RunsTo (Goes calm) (tryCommit key b ps (draftsOf key b ps)) w
      (.ok (List.zipWith (·.commit key b ·) ps globals)) w' := by
  obtain ⟨s', hinsert, -, -⟩ := exists_inserts_locked hfits hlength hascending hdrawn hnext
  let w₁ := w.locked.after (.insertEvents (draftsOf key b ps)) s'
  have hcommit : w₁.server.Executes 0 .commit (.ok ()) (s'.commit 0) := rfl
  refine ⟨w₁.after .commit (s'.commit 0), runsTo_of_settle hshort (.executed hinsert rfl) ?_⟩
  refine runsTo_runInside hcommit ?_
  rw [committed_eq hlength]
  exact .done _ _

/-- An attempt may store the batch and fail nevertheless. -/
theorem exists_runsTo_lost (w : Session) (f : DatabaseFailure) (hcalm : ¬calm) {next : Int}
    (hshort : argumentsPerRow * ps.length ≤ greatestWord16)
    (hfits : Server.Fits w.server.events (draftsOf key b ps)) (hlength : globals.length = ps.length)
    (hascending : globals.Pairwise (· < ·))
    (hdrawn : ∀ g ∈ globals, w.server.nextGlobal ≤ (g : Int) ∧ (g : Int) < next)
    (hnext : w.server.nextGlobal ≤ next) :
    ∃ w', RunsTo (Goes calm) (tryCommit key b ps (draftsOf key b ps)) w
      (.error (.database f)) w' ∧
        w'.server.events = w.server.events ++ rowsOf (draftsOf key b ps) globals := by
  obtain ⟨s', hinsert, hevents, htransaction⟩ :=
    exists_inserts_locked hfits hlength hascending hdrawn hnext
  let w₁ := w.locked.after (.insertEvents (draftsOf key b ps)) s'
  let w₂ := w₁.after .commit (s'.commit 0)
  let w₃ := w₂.after .abandon (w₂.server.withoutTransaction 0)
  have hlost : w₁.Answers calm .commit (.error f) w₂ := .lost hcalm rfl rfl rfl
  have habandon : w₂.Answers calm .abandon (.ok ()) w₃ := .executed rfl rfl
  refine ⟨w₃, runsTo_of_settle hshort (.executed hinsert rfl) ?_, ?_⟩
  · exact runsTo_send hlost (runsTo_send habandon (.failed _ w₃))
  · change s'.events ++ (s'.transaction 0).rows = _
    rw [hevents, htransaction]

end Session

end EventLedger
