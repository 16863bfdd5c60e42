import EventLedger.Proofs.MemoryStorage
import EventLedger.Proofs.Tables.Calm

/-!
# The tables refine the storage in memory

Both storages are asked the same, one request after another, over a server that never fails; each
scan of all events goes on from where it stands in the storage that it is made over.  Then both
storages reply the same.  Only the global numbers differ, since the server may skip some, and they
differ by one renumbering for the whole run, which keeps the order.

A batch of more than 8191 events is left out: the tables refuse it, since each event brings eight
arguments along and one statement takes at most 65535.

## Main definitions

* `EventCall`, `EventCall.Admits` — what both storages are asked, with numbers that fit the columns.
* `EventReply.Agrees ρ a a'` — the replies differ in the global numbers only.
* `Both`, `Both.Serves`, `Both.Runs` — both storages side by side, and what they reply.
* `Both.Refines` — how the replies and the contents of both are related.

## Main results

* `Both.Serves.exists_kept`, `Both.Runs.exists_mirrored` — what each call keeps, and a run.
* `Both.refines_of_runs` — **the tables refine the storage in memory.**
* `Both.refused_of_long` — the batches that are left out.
-/

namespace EventLedger

open Call (RunsTo)
open EventLog (Mirrors)
open TableStorage

/-! ### Calls and replies -/

/-- What both storages are asked. -/
inductive EventCall
  /-- Store a batch. -/
  | commit (key : StreamKey) (batchId : Uuid) (events : List PendingEvent)
  /-- Read a stream from a sequence number on. -/
  | load (key : StreamKey) (start : Nat)
  /-- Read up to `size` events of all streams, from where a scan stands. -/
  | page (scan size : Nat)
  /-- Remove a stream. -/
  | delete (key : StreamKey)

/-- What a storage replies to a call. -/
inductive EventReply
  | events (es : List CommittedEvent)
  | page (p : Page)
  | count (n : Nat)

namespace EventCall

/-- The request to a storage in which the scans stand at the given global numbers. -/
def request (cursors : List Nat) : EventCall → StorageRequest
  | commit key b ps => .commit key b ps
  | load key start => .load key start
  | page scan size => .page (cursors.getD scan 0) size
  | delete key => .delete key

/-- The reply that a result of the request is. -/
def reply {cursors : List Nat} : (c : EventCall) → (c.request cursors).Result → EventReply
  | commit .., es => .events es
  | load .., es => .events es
  | page .., p => .page p
  | delete _, n => .count n

/-- The numbers of the call fit the columns and its batch fits a statement; a page is asked for of a
scan that there is. -/
def Admits (cursors : List (Nat × Nat)) : EventCall → Prop
  | commit _ _ ps => (∀ p ∈ ps, p.FitsColumns) ∧ argumentsPerRow * ps.length ≤ greatestWord16
  | load _ start => start ≤ greatestLong
  | page scan size => size ≤ greatestLong ∧
      ∃ c, cursors[scan]? = some c ∧ c.1 ≤ greatestLong ∧ c.2 ≤ greatestLong
  | delete _ => True

end EventCall

namespace EventReply

/-- The events of a reply. -/
def eventsOf : Except Error EventReply → List CommittedEvent
  | .ok (.events es) => es
  | .ok (.page p) => p.events
  | _ => []

/-- The replies are the same but for the global numbers of their events, and the same failure. -/
def Agrees (ρ : Nat → Nat) : Except Error EventReply → Except Error EventReply → Prop
  | .ok (.events es), .ok (.events es') => es' = es.map (·.renumber ρ)
  | .ok (.page p), .ok (.page p') => p'.events = p.events.map (·.renumber ρ)
  | .ok (.count n), .ok (.count n') => n' = n
  | .error e, .error e' => e' = e
  | _, _ => False

/-- Where the scans go on that the replies have made. -/
def cursorsOf : Except Error EventReply → Except Error EventReply → List (Nat × Nat)
  | .ok (.page p), .ok (.page p') => [(p.next, p'.next)]
  | _, _ => []

end EventReply

/-! ### Both storages -/

/-- A storage in memory and a session with a server, side by side. -/
structure Both where
  /-- The storage in memory. -/
  memory : MemoryStorage
  /-- The session. -/
  tables : Session
  /-- Where the scans stand, in memory and in the tables. -/
  cursors : List (Nat × Nat)

namespace Both

/-- Both storages without events; a scan begins at 0 or at 1. -/
def empty : Both := ⟨{}, .start {}, [(0, 0), (1, 1)]⟩

/-- Both storages serve a call, whose caller does not cancel: the one in memory with the reply `a`,
the tables with `a'`. -/
structure Serves (strategy : RetryStrategy) (x : Both) (c : EventCall)
    (a a' : Except Error EventReply) (x' : Both) : Prop where
  memory : ((x.memory.answer false (c.request (x.cursors.map (·.1)))).1.map c.reply,
    (x.memory.answer false (c.request (x.cursors.map (·.1)))).2) = (a, x'.memory)
  tables : ∃ r, RunsTo (Session.Goes True)
      (TableStorage.serve strategy (c.request (x.cursors.map (·.2)))) x.tables r x'.tables ∧
    a' = (r.mapError TableError.toError).map c.reply
  cursors : x'.cursors = x.cursors ++ EventReply.cursorsOf a a'

/-- Both storages serve one call after another, each with numbers that fit. -/
inductive Runs (strategy : RetryStrategy) :
    Both → List EventCall → List (Except Error EventReply × Except Error EventReply) → Both → Prop
  | nil (x : Both) : Runs strategy x [] [] x
  | cons {x x₁ x' : Both} {c : EventCall} {cs : List EventCall} {a a' : Except Error EventReply}
      {rs : List (Except Error EventReply × Except Error EventReply)} (hc : c.Admits x.cursors)
      (hserves : x.Serves strategy c a a' x₁) (hrest : Runs strategy x₁ cs rs x') :
      Runs strategy x (c :: cs) ((a, a') :: rs) x'

/-- The tables mirror the storage in memory, and each scan stands at the same place in both. -/
structure Mirrored (numbers : List Nat) (x : Both) : Prop where
  mirrors : Mirrors numbers x.memory.events x.tables.server
  abreast : ∀ c ∈ x.cursors, Abreast numbers c.1 c.2

/-- How both storages are related after the replies `rs`. -/
structure Refines (strategy : RetryStrategy)
    (rs : List (Except Error EventReply × Except Error EventReply)) (x : Both) : Prop where
  /-- There is one renumbering that keeps the order, up to which all replies were the same and the
  tables hold what the storage in memory holds; -/
  agree : ∃ ρ : Nat → Nat,
    (∀ g g', 1 ≤ g → g < g' → g' ≤ x.memory.events.lastGlobal → ρ g < ρ g') ∧
    (∀ r ∈ rs, EventReply.Agrees ρ r.1 r.2) ∧
    x.tables.server.events = x.memory.events.all.map (EventRow.holding ρ)
  /-- both reply to whatever they are asked next; -/
  replies : ∀ c, ∃ a a' x', x.Serves strategy c a a' x'
  /-- and a batch that may be stored, but with a number that does not fit the columns, is refused
  before any statement is sent. -/
  refuses : ∀ key b ps, validateBatch ps = .ok () → (∃ p ∈ ps, ¬p.FitsColumns) →
    ∃ reason, TableStorage.commit strategy key b ps = .failed (.ledger (.invalidBatch reason))

variable {strategy : RetryStrategy} {numbers : List Nat} {x x' : Both} {c : EventCall}
  {a a' : Except Error EventReply} {cs : List EventCall}
  {rs : List (Except Error EventReply × Except Error EventReply)}

theorem mirrored_empty : Mirrored [] empty where
  mirrors := EventLog.mirrors_empty
  abreast := by
    intro c hc
    rcases List.mem_pair.1 hc with rfl | rfl
    · exact .zero
    · exact .one

/-- A mirrored pair stays mirrored while numbers are drawn; the scans that were made stand at the
same place. -/
theorem Mirrored.of_mirrors {numbers' : List Nat} (h : x.Mirrored numbers)
    (hnumbers : numbers <+: numbers')
    (hmirrors : Mirrors numbers' x'.memory.events x'.tables.server) {made : List (Nat × Nat)}
    (hcursors : x'.cursors = x.cursors ++ made)
    (hmade : ∀ c ∈ made, Abreast numbers' c.1 c.2) : x'.Mirrored numbers' where
  mirrors := hmirrors
  abreast := by
    obtain ⟨new, rfl⟩ := hnumbers
    rw [hcursors]
    intro c hc
    rcases List.mem_append.1 hc with hc | hc
    · exact (h.abreast c hc).append new
    · exact hmade c hc

/-- The events that a commit yields are stored. -/
theorem mem_all_of_commit {l : EventLog} {key : StreamKey} {b : Uuid} {ps : List PendingEvent}
    {es : List CommittedEvent} (h : l.Coherent) (hes : (l.commit key b ps).1 = .ok es) :
    ∀ e ∈ es, e ∈ (l.commit key b ps).2.all := by
  rcases l.commit_cases key b ps with
    ⟨e, -, hc⟩ | ⟨-, -, hc⟩ | ⟨-, -, stored, hstored, hc⟩ | ⟨-, -, n, -, hc⟩ <;> rw [hc] at hes ⊢
  · cases hes
  · obtain rfl := Except.ok.inj hes
    intro e he
    rw [h.all_append]
    exact List.mem_append_right _ he
  · obtain rfl := Except.ok.inj hes
    intro e he
    rw [← hstored.found_eq] at he
    obtain ⟨p, -, hp⟩ := List.mem_filterMap.1 he
    exact (h.placed.1 hp).1
  · cases hes

/-- A reply without a page makes no scan. -/
theorem noScan : ∀ c ∈ ([] : List (Nat × Nat)), Abreast numbers c.1 c.2 := by
  intro c hc
  cases hc

/-- What a call keeps. -/
structure Kept (numbers : List Nat) (a a' : Except Error EventReply) (x' : Both) : Prop where
  mirrored : x'.Mirrored numbers
  agrees : EventReply.Agrees (numberAt numbers) a a'
  stored : ∀ e ∈ EventReply.eventsOf a, e ∈ x'.memory.events.all

theorem Serves.kept_of_commit {key : StreamKey} {b : Uuid} {ps : List PendingEvent}
    (h : x.Mirrored numbers) (hc : (EventCall.commit key b ps).Admits x.cursors)
    (hserves : x.Serves strategy (.commit key b ps) a a' x') :
    ∃ numbers', numbers <+: numbers' ∧ Kept numbers' a a' x' := by
  obtain ⟨hmemory, ⟨r, hrun, hr⟩, hcursors⟩ := hserves
  obtain ⟨new, hmirrors, rfl⟩ := h.mirrors.of_commit hc.1 hc.2 hrun
  obtain ⟨ha, hm⟩ := Prod.mk.inj hmemory
  change (x.memory.events.commit key b ps).1.map EventReply.events = a at ha
  have hlog : x'.memory.events = (x.memory.events.commit key b ps).2 := by
    rw [← hm]
    rfl
  have hprefix : numbers <+: numbers ++ new := List.prefix_append numbers new
  refine ⟨numbers ++ new, hprefix, ?_⟩
  cases hresult : (x.memory.events.commit key b ps).1 with
  | ok es =>
    rw [hresult] at ha hr
    subst ha hr
    refine ⟨h.of_mirrors hprefix (hlog ▸ hmirrors) hcursors noScan, rfl, ?_⟩
    rw [hlog]
    exact mem_all_of_commit h.mirrors.coherent hresult
  | error e =>
    rw [hresult] at ha hr
    subst ha hr
    refine ⟨h.of_mirrors hprefix (hlog ▸ hmirrors) hcursors noScan, rfl, ?_⟩
    intro e he
    cases he

theorem Serves.kept_of_load {key : StreamKey} {start : Nat} (h : x.Mirrored numbers)
    (hc : (EventCall.load key start).Admits x.cursors)
    (hserves : x.Serves strategy (.load key start) a a' x') : Kept numbers a a' x' := by
  obtain ⟨hmemory, ⟨r, hrun, hr⟩, hcursors⟩ := hserves
  obtain ⟨hmirrors, rfl⟩ := h.mirrors.of_load hc hrun
  obtain ⟨rfl, hm⟩ := Prod.mk.inj hmemory
  subst hr
  have hlog : x'.memory = x.memory := hm.symm
  refine ⟨h.of_mirrors List.prefix_rfl ?_ hcursors noScan, rfl, ?_⟩
  · rw [hlog]
    exact hmirrors
  · intro e he
    rw [hlog]
    have hread := (h.mirrors.coherent.load_perm key start).mem_iff.1 he
    exact (List.mem_filter.1 hread).1

theorem Serves.kept_of_delete {key : StreamKey} (h : x.Mirrored numbers)
    (hserves : x.Serves strategy (.delete key) a a' x') : Kept numbers a a' x' := by
  obtain ⟨hmemory, ⟨r, hrun, hr⟩, hcursors⟩ := hserves
  obtain ⟨hmirrors, rfl⟩ := h.mirrors.of_delete hrun
  obtain ⟨rfl, hm⟩ := Prod.mk.inj hmemory
  subst hr
  refine ⟨h.of_mirrors List.prefix_rfl ?_ hcursors noScan, rfl, ?_⟩
  · rw [← hm]
    exact hmirrors
  · intro e he
    cases he

theorem Serves.kept_of_page {scan size : Nat} (h : x.Mirrored numbers)
    (hc : (EventCall.page scan size).Admits x.cursors)
    (hserves : x.Serves strategy (.page scan size) a a' x') : Kept numbers a a' x' := by
  obtain ⟨hmemory, ⟨r, hrun, hr⟩, hcursors⟩ := hserves
  obtain ⟨hsize, c, hscan, -, hfits⟩ := hc
  have hfst : (x.cursors.map (·.1)).getD scan 0 = c.1 := by
    rw [List.getD_eq_getElem?_getD, List.getElem?_map, hscan]
    rfl
  have hsnd : (x.cursors.map (·.2)).getD scan 0 = c.2 := by
    rw [List.getD_eq_getElem?_getD, List.getElem?_map, hscan]
    rfl
  have habreast := h.abreast c (List.mem_of_getElem? hscan)
  have hpaged : RunsTo (Session.Goes True) (TableStorage.page strategy c.2 size) x.tables r
      x'.tables := by
    rw [← hsnd]
    exact hrun
  obtain ⟨ha, hm⟩ := Prod.mk.inj hmemory
  change (x.memory.events.page ((x.cursors.map (·.1)).getD scan 0) size).map EventReply.page =
    a at ha
  rw [hfst] at ha
  have hlog : x'.memory = x.memory := hm.symm
  obtain ⟨hmirrors, hcases⟩ := h.mirrors.of_page habreast hfits hsize hpaged
  rw [← hlog] at hmirrors
  rcases hcases with ⟨e, herror, rfl⟩ | ⟨page, next, hpage, hnext, rfl⟩
  · rw [herror] at ha
    subst ha hr
    refine ⟨h.of_mirrors List.prefix_rfl hmirrors hcursors noScan, rfl, ?_⟩
    intro e he
    cases he
  · rw [hpage] at ha
    subst ha hr
    refine ⟨h.of_mirrors List.prefix_rfl hmirrors hcursors ?_, rfl, ?_⟩
    · intro c hc
      obtain rfl := List.mem_singleton.1 hc
      exact hnext
    · rw [hlog]
      exact fun e he => ((h.mirrors.coherent.cut_of_page hpage).within e he).1

/-- **What each call keeps.** -/
theorem Serves.exists_kept (h : x.Mirrored numbers) (hc : c.Admits x.cursors)
    (hserves : x.Serves strategy c a a' x') :
    ∃ numbers', numbers <+: numbers' ∧ Kept numbers' a a' x' := by
  cases c with
  | commit key b ps => exact hserves.kept_of_commit h hc
  | load key start => exact ⟨numbers, List.prefix_rfl, hserves.kept_of_load h hc⟩
  | page scan size => exact ⟨numbers, List.prefix_rfl, hserves.kept_of_page h hc⟩
  | delete key => exact ⟨numbers, List.prefix_rfl, hserves.kept_of_delete h⟩

/-- Numbers that are drawn later leave the replies the same. -/
theorem Kept.agrees_of_prefix {numbers' : List Nat} (h : Kept numbers a a' x)
    (hnumbers : numbers <+: numbers') : EventReply.Agrees (numberAt numbers') a a' := by
  obtain ⟨new, rfl⟩ := hnumbers
  have hsame : (EventReply.eventsOf a).map (·.renumber (numberAt (numbers ++ new))) =
      (EventReply.eventsOf a).map (·.renumber (numberAt numbers)) := by
    refine List.map_congr_left ?_
    intro e he
    obtain ⟨hpos, hle⟩ := h.mirrored.mirrors.bounds (h.stored e he)
    rw [CommittedEvent.renumber, CommittedEvent.renumber, numberAt_append hpos hle]
  have hagrees := h.agrees
  rcases a with e | (es | p | n) <;> rcases a' with e' | (es' | p' | n')
  case ok.events.ok.events => exact hagrees.trans hsame.symm
  case ok.page.ok.page => exact hagrees.trans hsame.symm
  all_goals exact hagrees

/-- **What a run keeps.** -/
theorem Runs.exists_mirrored (h : Runs strategy x cs rs x') (hx : x.Mirrored numbers) :
    ∃ numbers', numbers <+: numbers' ∧ x'.Mirrored numbers' ∧
      ∀ r ∈ rs, EventReply.Agrees (numberAt numbers') r.1 r.2 := by
  induction h generalizing numbers with
  | nil x =>
    refine ⟨numbers, List.prefix_rfl, hx, ?_⟩
    intro r hr
    cases hr
  | cons hc hserves _ ih =>
    obtain ⟨numbers₁, hfirst, hkept⟩ := hserves.exists_kept hx hc
    -- the replies so far agree under the numbers of the whole run as well
    obtain ⟨numbers', hrest, hmirrored, hagree⟩ := ih hkept.mirrored
    refine ⟨numbers', hfirst.trans hrest, hmirrored, ?_⟩
    intro r hr
    rcases List.mem_cons.1 hr with rfl | hr
    · exact hkept.agrees_of_prefix hrest
    · exact hagree r hr

/-! ### The refinement -/

/-- Both storages reply to every call. -/
theorem exists_serves (strategy : RetryStrategy) (x : Both) (c : EventCall) :
    ∃ a a' x', x.Serves strategy c a a' x' := by
  have hasks : Call.Asks (fun _ => True)
      (TableStorage.serve strategy (c.request (x.cursors.map (·.2)))) :=
    .of_forall (fun _ => trivial) _
  obtain ⟨r, w, hrun⟩ := hasks.exists_runsTo
    (fun w q _ => Session.exists_goes True w q) x.tables
  exact ⟨_, _, ⟨_, w, _⟩, rfl, ⟨r, hrun, rfl⟩, rfl⟩

/-- A batch with a number that does not fit the columns is refused at once. -/
theorem refused_of_not_fitsColumns {key : StreamKey} {b : Uuid} {ps : List PendingEvent}
    (hv : validateBatch ps = .ok ()) (hwide : ∃ p ∈ ps, ¬p.FitsColumns) :
    ∃ reason, TableStorage.commit strategy key b ps = .failed (.ledger (.invalidBatch reason)) := by
  unfold TableStorage.commit
  rw [hv]
  rcases mapM_draft_cases key b ps with ⟨hps, -⟩ | ⟨-, reason, hdrafts⟩
  · obtain ⟨p, hp, hno⟩ := hwide
    exact absurd (hps p hp) hno
  · rw [hdrafts]
    exact ⟨reason, rfl⟩

/-- **The tables refine the storage in memory**: asked the same from empty, both reply the same. -/
theorem refines_of_runs (h : Runs strategy empty cs rs x) : Refines strategy rs x where
  agree := by
    obtain ⟨numbers, -, hmirrored, hagree⟩ := h.exists_mirrored mirrored_empty
    refine ⟨numberAt numbers, ?_, hagree, hmirrored.mirrors.rows⟩
    intro g g' hpos hlt hle
    rw [← hmirrored.mirrors.length] at hle
    exact numberAt_lt hmirrored.mirrors.ascending hpos hlt hle
  replies := exists_serves strategy x
  refuses := fun _ _ _ => refused_of_not_fitsColumns

/-- Numbers that a server skips are skipped in the replies of the tables only. -/
theorem refines_over_skipped_numbers : ∃ a a' rs x,
    Runs .never empty
      [.commit MemoryStorage.sampleKey (.ofNat 1) (MemoryStorage.sampleBatch [1]), .page 1 5]
      ((a, a') :: rs) x ∧
    (EventReply.eventsOf a).map (·.globalSequence) = [1] ∧
    (EventReply.eventsOf a').map (·.globalSequence) = [7] ∧ Refines .never ((a, a') :: rs) x := by
  let key := MemoryStorage.sampleKey
  let ps := MemoryStorage.sampleBatch [1]
  have hps : ∀ p ∈ ps, p.FitsColumns := by
    intro p hp
    obtain rfl := List.mem_singleton.1 hp
    exact ⟨by decide, by decide⟩
  have hshort : argumentsPerRow * ps.length ≤ greatestWord16 := by decide
  have hempty : Server.Fits [] (draftsOf key (.ofNat 1) ps) := by
    refine ⟨?_, List.pairwise_singleton _ _⟩
    intro d _ r hr
    cases hr
  have hdrawn : ∀ g : Nat, g ∈ [7] →
      empty.tables.server.nextGlobal ≤ (g : Int) ∧ (g : Int) < 8 := by
    decide
  obtain ⟨w, hstored⟩ := Session.exists_runsTo_stored True empty.tables hshort hempty rfl
    (List.pairwise_singleton _ _) hdrawn (by decide)
  have hcommit : RunsTo (Session.Goes True) (TableStorage.commit .never key (.ofNat 1) ps)
      empty.tables (.ok (List.zipWith (·.commit key (.ofNat 1) ·) ps [7])) w :=
    RetryCall.runsTo_of_ok hstored
  let x₁ : Both := ⟨(MemoryStorage.serve {} (.commit key (.ofNat 1) ps)).2, w, [(0, 0), (1, 1)]⟩
  have hfirst : empty.Serves .never (.commit key (.ofNat 1) ps)
      (.ok (.events (List.zipWith (·.commit key (.ofNat 1) ·) ps [1])))
      (.ok (.events (List.zipWith (·.commit key (.ofNat 1) ·) ps [7]))) x₁ :=
    ⟨rfl, ⟨_, hcommit, rfl⟩, rfl⟩
  obtain ⟨a, a', x₂, hsecond⟩ := exists_serves .never x₁ (.page 1 5)
  have hruns : Runs .never empty [.commit key (.ofNat 1) ps, .page 1 5] _ x₂ :=
    .cons ⟨hps, hshort⟩ hfirst
      (.cons ⟨by decide, (1, 1), rfl, by decide, by decide⟩ hsecond (.nil x₂))
  exact ⟨_, _, _, x₂, hruns, rfl, rfl, refines_of_runs hruns⟩

/-! ### Batches that are too long for a statement -/

/-- A valid batch that is too long for one statement is not stored in the tables. -/
theorem refused_of_long {key : StreamKey} {b : Uuid} {ps : List PendingEvent}
    (hv : validateBatch ps = .ok ()) (hps : ∀ p ∈ ps, p.FitsColumns)
    (hlong : greatestWord16 < argumentsPerRow * ps.length)
    (hserves : x.Serves strategy (.commit key b ps) a a' x') :
    a' = .error (.storage
        (DatabaseFailure.tooManyArguments (argumentsPerRow * ps.length)).message) ∧
      x'.tables.server.events = x.tables.server.events := by
  obtain ⟨-, ⟨r, hrun, rfl⟩, -⟩ := hserves
  change RunsTo _ (TableStorage.commit strategy key b ps) _ _ _ at hrun
  unfold TableStorage.commit at hrun
  rw [hv] at hrun
  rcases mapM_draft_cases key b ps with ⟨-, hdrafts⟩ | ⟨⟨p, hp, hwide⟩, -⟩
  · rw [hdrafts] at hrun
    have hrefused : r = .error (.database (.tooManyArguments (argumentsPerRow * ps.length))) ∧
        x'.tables.server.events = x.tables.server.events := by
      refine Session.of_retryTransient
        (Q := fun r w => r = .error (.database (.tooManyArguments (argumentsPerRow * ps.length))) ∧
          w.server.events = x.tables.server.events) ?_ hrun
      intro r₁ w₁ hattempt
      -- an attempt that goes as far as its insertion has a batch that is short enough
      cases Session.attempted_of_tryCommit hps hattempt with
      | gaveUp hreason hstands =>
        obtain ⟨-, rfl⟩ := hreason trivial
        refine ⟨⟨rfl, hstands.events_eq trivial⟩, ?_⟩
        rintro f ⟨⟩
        rfl
      | stored _ hshort _ _ => exact absurd hlong (Nat.not_lt.2 hshort)
      | lost hcalm _ _ _ _ => exact absurd trivial hcalm
      | resolved _ hshort _ => exact absurd hlong (Nat.not_lt.2 hshort)
    obtain ⟨rfl, hevents⟩ := hrefused
    exact ⟨rfl, hevents⟩
  · exact absurd (hps p hp) hwide

/-- A valid batch whose places are free is stored in memory, however long it is. -/
theorem stored_of_freeFor {key : StreamKey} {b : Uuid} {ps : List PendingEvent}
    (hv : validateBatch ps = .ok ()) (hfree : x.memory.events.FreeFor key ps)
    (hserves : x.Serves strategy (.commit key b ps) a a' x') : ∃ es, a = .ok (.events es) := by
  obtain ⟨rfl, -⟩ := Prod.mk.inj hserves.memory
  refine ⟨EventLog.number key b x.memory.events.lastGlobal ps, ?_⟩
  change (x.memory.events.commit key b ps).1.map EventReply.events = _
  rcases x.memory.events.commit_cases key b ps with
    ⟨e, he, -⟩ | ⟨-, -, hc⟩ | ⟨-, htaken, -⟩ | ⟨-, -, n, hn, -⟩
  · rw [hv] at he
    cases he
  · rw [hc]
    rfl
  · exact absurd hfree htaken
  · exact absurd hfree hn.not_freeFor

/-- A batch that has one event more than fit a statement. -/
def longBatch : List PendingEvent := MemoryStorage.sampleBatch (List.range' 1 8192)

theorem length_longBatch : longBatch.length = 8192 := by
  rw [longBatch, MemoryStorage.sampleBatch, List.length_map, List.length_range']

theorem map_sequence_longBatch : longBatch.map (·.sequence) = List.range' 1 8192 := by
  rw [longBatch, MemoryStorage.sampleBatch, List.map_map]
  exact List.map_id' _

theorem fitsColumns_of_mem_longBatch : ∀ p ∈ longBatch, p.FitsColumns := by
  intro p hp
  obtain ⟨n, hn, rfl⟩ := List.mem_map.1 hp
  rw [List.mem_range'_1] at hn
  have hsmall : n ≤ greatestLong := by
    unfold greatestLong
    omega
  exact ⟨hsmall, show 2 ≤ greatestInteger by decide⟩

/-- The numbers of the batch run on from 1, so the check has nothing against it. -/
theorem validateBatch_longBatch : validateBatch longBatch = .ok () := by
  have hrun : RunsOn (longBatch.map (·.sequence)) := by
    rw [map_sequence_longBatch]
    refine ⟨1, Nat.le_refl 1, ?_, ?_⟩
    · exact List.ne_nil_of_length_eq_add_one List.length_range'
    · rw [List.length_range']
  refine validateBatch_eq_ok_iff.2 ⟨hrun, fun p hp => ?_⟩
  exact Nat.le_trans (fitsColumns_of_mem_longBatch p hp).1 (by decide)

/-- The replies to a batch of 8192 events differ, whatever the renumbering. -/
theorem replies_differ_of_8192_events :
    longBatch.length = 8192 ∧ validateBatch longBatch = .ok () ∧
    (∀ p ∈ longBatch, p.FitsColumns) ∧
    ∃ a a' x, empty.Serves .never (.commit MemoryStorage.sampleKey (.ofNat 1) longBatch) a a' x ∧
      ∀ ρ, ¬EventReply.Agrees ρ a a' := by
  obtain ⟨a, a', x, hserves⟩ := exists_serves .never empty
    (.commit MemoryStorage.sampleKey (.ofNat 1) longBatch)
  refine ⟨length_longBatch, validateBatch_longBatch, fitsColumns_of_mem_longBatch, a, a', x,
    hserves, ?_⟩
  have hlong : greatestWord16 < argumentsPerRow * longBatch.length := by
    rw [length_longBatch]
    decide
  obtain ⟨rfl, -⟩ := refused_of_long validateBatch_longBatch fitsColumns_of_mem_longBatch hlong
    hserves
  obtain ⟨es, rfl⟩ := stored_of_freeFor validateBatch_longBatch (fun _ _ => rfl) hserves
  exact fun _ hagrees => hagrees

end Both

end EventLedger
