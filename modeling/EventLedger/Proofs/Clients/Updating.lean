import EventLedger.Proofs.Clients.Missed
import EventLedger.Proofs.Metadata

/-!
# What an update does

An attempt loads, looks for its source in the last batch, decides and commits.  It changes nothing
unless its one commit is accepted, and then it yields the batch that was stored.  A conflict leads
to the next attempt, which begins with a stream that holds whatever led to the conflict.

## Main definitions

* `Setting.Attempted` — how an attempt ends.
* `Setting.Updated` — what is known once an update has ended.

## Main results

* `Setting.keeps_pendingEvents` — the batch that an attempt brings.
* `Setting.keeps_attempt` — **how an attempt ends.**
* `Setting.keeps_update` — **what is known once an update has ended.**
-/

namespace EventLedger

variable {σ ε : Type}

namespace Setting

variable (T : Setting σ ε) (c : Caller σ ε)

/-- The call has committed nothing. -/
def NoCommit (w : World σ ε) : Prop :=
  ∀ h ∈ History.commits w.history, h.author.map (·.number) ≠ some c.number

/-- How an attempt that begins at `w` ends. -/
inductive Attempted (w w' : World σ ε) : Except Error (List CommittedEvent) → Prop
  /-- It commits nothing; if it would miss a batch, that is its result. -/
  | quiet {batch : List CommittedEvent} : T.Since c w w' →
      (∀ h, T.Missed c w' h → batch = h.stored) → Attempted w w' (.ok batch)
  /-- It fails and misses nothing. -/
  | failed {e : Error} : T.Since c w w' → e.isConflict = false → (∀ h, ¬T.Missed c w' h) →
      Attempted w w' (.error e)
  /-- It meets a conflict, and missed nothing before. -/
  | conflict {e : Error} {w₁ : World σ ε} {n : Note σ ε} : e.isConflict = true → T.At c w w₁ →
      (∀ h, ¬T.Missed c w₁ h) → T.Later w₁ w' → w'.history = n :: w₁.history →
      n.number = some c.number → n.isConflict = true → n.commit? = none →
      Attempted w w' (.error e)
  /-- Its one commit is accepted. -/
  | committed {h : Commit σ ε} : h ∈ History.commits w'.history →
      (∀ h' ∈ History.commits w'.history, h'.author.map (·.number) = some c.number → h' = h) →
      (c.store.caching = true → h.stop ≤ w'.marks c.cache c.key) → (∀ h', ¬T.Missed c w' h') →
      Attempted w w' (.ok h.stored)

/-- What is known once an update has ended. -/
structure Updated (w : World σ ε) (r : Except Error (List CommittedEvent)) : Prop where
  /-- If it committed a batch, it yields that, and its cache holds nothing older. -/
  returned : ∀ h ∈ History.commits w.history, h.author.map (·.number) = some c.number →
    r = .ok h.stored ∧ (c.store.caching = true → h.stop ≤ w.marks c.cache c.key)
  /-- If it would have missed a batch, it yields that. -/
  missed : ∀ h, T.Missed c w h → r = .ok h.stored

variable {T} {c} {w w' : World σ ε} {hc : T.Admits c}

/-- A call that has only been quiet since made its commits before. -/
theorem Since.own_commit {h : Commit σ ε} (hs : T.Since c w w')
    (hh : h ∈ History.commits w'.history) (hnumber : h.author.map (·.number) = some c.number) :
    h ∈ History.commits w.history := by
  obtain ⟨new, hnew, hquiet⟩ := hs.quiet
  obtain ⟨n, hn, hcommit⟩ := List.mem_filterMap.1 hh
  rw [hnew, List.mem_append] at hn
  rcases hn with hn | hn
  · have hquiet := (hquiet n hn (by rw [← hnumber, Note.author_of_commit? hcommit]; rfl)).1
    rw [hcommit] at hquiet
    cases hquiet
  · exact List.mem_filterMap.2 ⟨n, hn, hcommit⟩

theorem NoCommit.since (h : NoCommit c w) (hs : T.Since c w w') : NoCommit c w' :=
  fun k hk hnumber => h k (hs.own_commit hk hnumber) hnumber

theorem Attempted.from {r : Except Error (List CommittedEvent)} (h : T.At c w w')
    {w'' : World σ ε} (ha : T.Attempted c w' w'' r) : T.Attempted c w w'' r := by
  cases ha with
  | quiet hs hmissed => exact .quiet (h.toSince.trans hs) hmissed
  | failed hs hconflict hmissed => exact .failed (h.toSince.trans hs) hconflict hmissed
  | conflict hconflict h₁ hmissed hlater hhistory hnumber hn hplain =>
    exact .conflict hconflict (h.trans h₁) hmissed hlater hhistory hnumber hn hplain
  | committed hmem honly hmarks hmissed => exact .committed hmem honly hmarks hmissed

/-! ### The batch -/

theorem keeps_providedEntries {context : EventContext} : ∀ {ps : List MetadataProvider}
    {w : World σ ε}, T.Inv w → T.Settled c w →
    Call.Keeps (T.discipline c hc) (T.Ends c w (fun _ _ => True) Never)
      (AggregateStore.providedEntries context ps) w
  | [], _, _, _ => keeps_done trivial
  | p :: ps, w, hw, hsettled => by
    refine keeps_seq hw (keeps_freshId hsettled) ?_ fun _ _ _ h => h.elim
    intro w₁ _ h₁ _
    refine keeps_seq h₁.inv (keeps_providedEntries h₁.inv (hsettled.since h₁.toSince))
      ?_ fun _ _ _ h => h.elim
    intro w₂ _ h₂ _
    exact keeps_done trivial

theorem keeps_pendingEvent {x : ε} {sequence : Nat} {timestamp : String} {b : Uuid}
    {source : Option String} (hw : T.Inv w) (hsettled : T.Settled c w) :
    Call.Keeps (T.discipline c hc)
      (T.Ends c w (fun _ p => p.sequence = sequence ∧ T.Writes x p.type p.payload ∧
        p.metadata.sourceId = source) (fun _ e => e.isConflict = false))
      (c.store.pendingEvent c.key sequence timestamp b source x) w := by
  unfold AggregateStore.pendingEvent
  rw [hc.fits.aggregate, hc.fits.codec]
  dsimp only
  split
  · exact keeps_failed rfl
  next payload hpayload =>
    refine keeps_seq hw (keeps_providedEntries hw hsettled) ?_ fun _ _ _ h => h.elim
    intro w₁ entries h₁ _
    dsimp only [Call.bind_eq_bind]
    cases hmeta : Metadata.mergeAll (AggregateStore.reservedMetadata c.key sequence
      (T.aggregate.typeOf x) timestamp b source) entries with
    | error e => exact keeps_failed (Metadata.isConflict_of_mergeAll hmeta)
    | ok metadata =>
      refine keeps_done ⟨rfl, ⟨rfl, hpayload⟩, ?_⟩
      rw [Metadata.sourceId_mergeAll hmeta, AggregateStore.sourceId_reservedMetadata]

/-- **The batch that an attempt brings**: the emitted events in order, numbered from `V + 1` on, all
with the source of the update. -/
theorem keeps_pendingEvents {timestamp : String} {b : Uuid} {source : Option String} :
    ∀ {xs : List ε} {V : Nat} {w : World σ ε}, T.Inv w → T.Settled c w →
    Call.Keeps (T.discipline c hc)
      (T.Ends c w (fun _ ps => ps.map (·.sequence) = List.range' (V + 1) ps.length ∧
        List.Forall₂ (fun x p => T.Writes x p.type p.payload) xs ps ∧
        ∀ p ∈ ps, p.metadata.sourceId = source) (fun _ e => e.isConflict = false))
      (c.store.pendingEvents c.key timestamp b source V xs) w
  | [], _, _, _, _ => keeps_done ⟨rfl, .nil, by simp⟩
  | x :: xs, V, w, hw, hsettled => by
    unfold AggregateStore.pendingEvents
    split
    · exact keeps_failed rfl
    · refine keeps_seq hw (keeps_pendingEvent hw hsettled) ?_ fun _ _ _ h => h
      intro w₁ p h₁ hp
      refine keeps_seq h₁.inv (keeps_pendingEvents h₁.inv (hsettled.since h₁.toSince))
        ?_ fun _ _ _ h => h
      intro w₂ ps h₂ hps
      obtain ⟨hsequence, hwrites, hsource⟩ := hp
      obtain ⟨hnumbered, hall, hsources⟩ := hps
      refine keeps_done ⟨?_, .cons hwrites hall, ?_⟩
      · rw [List.map_cons, List.length_cons, List.range'_succ, hsequence, hnumbered]
      · intro q hq
        rcases List.mem_cons.1 hq with rfl | hq
        · exact hsource
        · exact hsources q hq

/-! ### The commit -/

/-- The commit `h` of the call was accepted at `w`. -/
structure Accepted (T : Setting σ ε) (c : Caller σ ε) (h : Commit σ ε) (w w' : World σ ε) :
    Prop where
  later : T.Later w w'
  author : h.author = some c
  noted : ∃ n : Note σ ε, w'.history = n :: w.history ∧ n.commit? = some h ∧ n.isConflict = false

theorem Accepted.earned {h : Commit σ ε} (hacc : T.Accepted c h w w') (hw' : T.Inv w') :
    T.Accounted w.history h ∧ T.Earned w.history c h := by
  obtain ⟨n, hhistory, hcommit, -⟩ := hacc.noted
  have haccounted := hw'.accounted n w.history h (hhistory ▸ List.suffix_refl _) hcommit
  exact ⟨haccounted, haccounted.call c hacc.author⟩

/-- An accepted batch is put behind the events that were there. -/
theorem Accepted.events {h : Commit σ ε} (hacc : T.Accepted c h w w') (hw : T.Inv w)
    (hw' : T.Inv w') : w'.events c.key = w.events c.key ++ h.stored ∧
      h.stop = (w'.events c.key).length := by
  obtain ⟨n, hhistory, hcommit, -⟩ := hacc.noted
  obtain ⟨haccounted, hearned⟩ := hacc.earned hw'
  have hevents : w'.events h.key = w.events h.key ++ h.stored := by
    rw [hw'.events h.key haccounted.tracked, hw.events h.key haccounted.tracked, hhistory,
      eventsAfter_commit hcommit]
  have hsuffix : n :: w.history <:+ w'.history := hhistory ▸ List.suffix_refl _
  obtain ⟨-, hstop⟩ := hw'.position hsuffix hcommit
  rw [← hw.events h.key haccounted.tracked, ← hevents] at hstop
  exact hearned.key ▸ ⟨hevents, hstop⟩

theorem Proposes.later {V : Nat} {ps : List PendingEvent} (hc : T.Admits c)
    (h : T.Proposes c w V ps) (hle : T.Later w w') : T.Proposes c w' V ps where
  version_le := Nat.le_trans h.version_le (hle.events_length hc.tracked)
  numbered := h.numbered
  decided := by rw [hle.take_events hc.tracked h.version_le]; exact h.decided
  source := h.source
  apart := Apart.later hc h.version_le h.apart hle

/-- A commit of a proposed batch is refused, or put right behind the events it was decided on. -/
theorem keeps_commit {b : Uuid} {ps : List PendingEvent} {V : Nat}
    (hb : (c.number, b) ∈ History.issued w.history) (hno : NoCommit c w)
    (hps : T.Proposes c w V ps) (hsettled : T.Settled c w) :
    Call.Keeps (T.discipline c hc)
      (fun w' r => match r with
        | .error e => T.Attempted c w w' (.error e)
        | .ok stored => ∃ w₁ h, T.At c w w₁ ∧ V = (w₁.events c.key).length ∧
          T.Accepted c h w₁ w' ∧ h.stored = stored ∧
          ∀ xs, List.Forall₂ (fun x p => T.Writes x p.type p.payload) xs ps →
            List.Forall₂ (fun x e => T.Writes x e.type e.payload) xs h.stored)
      (StoreCall.storage (.commit c.key b ps)) w := by
  intro w₁ hrely hw₁
  have h₁ : T.At c w w₁ := ⟨hrely.since, hw₁⟩
  have hb₁ := History.mem_issued_of_suffix h₁.history hb
  have hno₁ := hno.since h₁.toSince
  have hps₁ := hps.later hc h₁.toLater
  have hq : T.Permits c w₁ (.storage (.commit c.key b ps)) :=
    ⟨rfl, hb₁, hno₁, ⟨V, hps₁⟩, hsettled w₁ h₁⟩
  refine ⟨hq, ?_⟩
  intro a w₂ hserves
  obtain ⟨-, hlater, hhistory⟩ := hw₁.serves hc hq hserves
  obtain ⟨w₃, ha, rfl⟩ := hserves
  rcases hw₁.answers_commit hc hb₁ hno₁ hps₁ ha with
    ⟨e, rfl, rfl⟩ | ⟨hV, stored, rfl, -, -, hstored, rfl⟩
  · change T.Attempted c w (w₃.noted _) (.error e)
    cases hconflict : e.isConflict with
    | true => exact .conflict hconflict h₁ (hsettled w₃ h₁) hlater hhistory rfl hconflict rfl
    | false =>
      have hsince : T.Since c w₃ (w₃.noted ⟨some c, .storage (.commit c.key b ps), .error e⟩) :=
        ⟨hlater, [_], rfl, fun n hn _ => by
          obtain rfl := List.mem_singleton.1 hn
          exact ⟨rfl, hconflict⟩⟩
      have hw₂ := (hw₁.serves hc hq ⟨w₃, ha, rfl⟩).1
      have h₂ := h₁.toSince.trans hsince
      exact .failed h₂ hconflict (hsettled _ ⟨h₂, hw₂⟩)
  · exact ⟨w₁, ⟨some c, c.key, b, stored⟩, h₁, hV, ⟨hlater, rfl, _, hhistory, rfl, rfl⟩, rfl,
      hstored⟩

/-! ### After the commit -/

/-- A sound state is offered as a snapshot. -/
theorem keeps_offerSnapshot {root : Root σ ε} {version last : Nat} (hw : T.Inv w)
    (hid : root.id = c.id) (hversion : version ≤ (w.events c.key).length)
    (hshows : T.Shows c.id ((w.events c.key).take version) root.state) :
    Call.Keeps (T.discipline c hc) (T.Ends c w (fun _ _ => True) Never)
      (c.store.offerSnapshot root version last) w := by
  have hdue : ∀ strategy, Call.Keeps (T.discipline c hc) (T.Ends c w (fun _ _ => True) Never)
      (AggregateStore.snapshotDue strategy version last) w := by
    intro strategy
    unfold AggregateStore.snapshotDue
    split
    · exact keeps_seq hw keeps_roll (fun _ _ _ _ => keeps_done trivial) fun _ _ _ h => h
    · exact keeps_done trivial
  unfold AggregateStore.offerSnapshot
  split
  · exact keeps_done trivial
  next strategy _ =>
    refine keeps_seq hw (hdue strategy) ?_ fun _ _ _ h => h
    intro w₁ due h₁ _
    split
    · rw [hc.fits.codec, hid]
      split
      · exact keeps_done trivial
      next state hstate =>
        refine keeps_seq h₁.inv keeps_now ?_ fun _ _ _ h => h
        intro w₂ now h₂ _
        have h₁₂ := h₁.trans h₂
        refine keeps_seq h₂.inv (keeps_storeSnapshot rfl ⟨?_, root.state, ?_, ?_⟩)
          (fun _ _ _ _ => keeps_done trivial) fun _ _ _ h => h
        · exact Nat.le_trans hversion (h₁₂.events_length hc.tracked)
        · exact T.readState_written root.state state hstate
        · rw [h₁₂.take_events hc.tracked hversion]
          exact hshows
    · exact keeps_done trivial

theorem keeps_storeInvalidate (hw : T.Inv w) :
    Call.Keeps (T.discipline c hc)
      (T.Ends c w (fun w' _ => c.store.caching = true →
        (w.events c.key).length ≤ w'.marks c.cache c.key) Never)
      (c.store.invalidate c.id) w := by
  unfold AggregateStore.invalidate
  split
  next => exact keeps_imp hw keeps_invalidate (fun _ _ _ h _ => h) fun _ _ _ h => h
  next hno => exact keeps_done fun hcaching => absurd hcaching hno

/-- A call whose commit was accepted misses nothing: what it met is behind its own batch. -/
theorem Accepted.not_missed {h k : Commit σ ε} {w'' : World σ ε} (hc : T.Admits c)
    (hacc : T.Accepted c h w w') (hw : T.Inv w) (hw' : T.Inv w') (hs : T.Since c w' w'') :
    ¬T.Missed c w'' k := by
  intro hm
  have hm' := hm.of_since hc hw' hs
  obtain ⟨haccounted, -⟩ := hacc.earned hw'
  obtain ⟨hevents, -⟩ := hacc.events hw hw'
  obtain ⟨n, hhistory, -, hquiet⟩ := hacc.noted
  have hmet : c.MetAfter k w.history := by
    obtain ⟨m, t, hsuffix, hnumber, hconflict, hrest⟩ := hm'.met
    rcases List.suffix_cons_iff.1 (hhistory ▸ hsuffix) with heq | hsuffix
    · rw [(List.cons.inj heq).1, hquiet] at hconflict
      cases hconflict
    · exact ⟨m, t, hsuffix, hnumber, hconflict, hrest⟩
  have hstop : k.stop ≤ (w.events c.key).length := hm.key ▸ hw.stop_le hmet.mem_commits
  have hlast := hm'.last
  rw [hevents, List.length_append] at hlast
  have := List.length_pos_iff.2 haccounted.nonempty
  omega

/-- Once its commit is accepted, an attempt drops the key from its cache, offers a snapshot and
yields the stored batch. -/
theorem keeps_accepted {w₀ : World σ ε} {h : Commit σ ε} {root : Root σ ε} {last : Nat}
    (hacc : T.Accepted c h w w') (hw : T.Inv w) (hw' : T.Inv w') (hno : NoCommit c w)
    (hid : root.id = c.id) (hshows : T.Shows c.id (w'.events c.key) root.state) :
    Call.Keeps (T.discipline c hc) (T.Attempted c w₀)
      ((c.store.invalidate c.id).bind fun _ =>
        (c.store.offerSnapshot root h.stop last).bind fun _ => .done h.stored) w' := by
  obtain ⟨-, hstop⟩ := hacc.events hw hw'
  obtain ⟨n, hhistory, hcommit, -⟩ := hacc.noted
  refine keeps_then hw' (keeps_storeInvalidate hw') ?_ fun _ _ _ h => h.elim
  intro w₁ _ h₁ hmarks
  have hshows₁ : T.Shows c.id ((w₁.events c.key).take h.stop) root.state := by
    rwa [h₁.take_events hc.tracked (Nat.le_of_eq hstop), hstop, List.take_length]
  have hstop₁ : h.stop ≤ (w₁.events c.key).length := hstop ▸ h₁.events_length hc.tracked
  refine keeps_then h₁.inv (keeps_offerSnapshot h₁.inv hid hstop₁ hshows₁) ?_ fun _ _ _ h => h.elim
  intro w₂ _ h₂ _
  have h₁₂ := h₁.trans h₂
  have hmem : h ∈ History.commits w'.history := by
    rw [hhistory, History.commits_cons, hcommit]
    exact List.mem_cons_self
  refine .committed (History.mem_commits_of_suffix h₁₂.history hmem) ?_
    ?_ fun k => hacc.not_missed hc hw hw' h₁₂.toSince
  · intro k hk hnumber
    -- the call had committed nothing before
    have hk := h₁₂.toSince.own_commit hk hnumber
    rw [hhistory, History.commits_cons, hcommit] at hk
    rcases List.mem_cons.1 hk with rfl | hk
    · rfl
    · exact absurd hnumber (hno k hk)
  · intro hcaching
    rw [hstop]
    exact Nat.le_trans (hmarks hcaching) (h₂.marks_le c.cache c.key hc.tracked)

/-- **A decision that emitted events is committed**, or the attempt fails. -/
theorem keeps_commitRoot {V : Nat} {st : σ} {root : Root σ ε} {l : LoadedStream ε} (hw : T.Inv w)
    (hV : V ≤ (w.events c.key).length) (hshows : T.Shows c.id ((w.events c.key).take V) st)
    (hdecide : c.mayDecide ⟨c.id, st, V, []⟩ (.ok root)) (hapart : Apart c V w)
    (hno : NoCommit c w) (hsettled : T.Settled c w) :
    Call.Keeps (T.discipline c hc) (T.Attempted c w)
      (c.store.commitRoot c.id c.source l root) w := by
  obtain ⟨xs, hxs, hreplay, hhandled, hid, hversion⟩ := (hc.emits _ _ hdecide).spec
  have hdecided : T.Decided c ((w.events c.key).take V) root.uncommitted := by
    refine ⟨st, root, hshows, ?_, rfl⟩
    rwa [List.length_take, Nat.min_eq_left hV]
  rw [List.nil_append] at hxs
  unfold AggregateStore.commitRoot
  dsimp only
  rw [hversion]
  refine keeps_then hw (keeps_freshId hsettled) ?_ fun _ _ _ h => h.elim
  intro w₁ b h₁ hb
  refine keeps_then h₁.inv keeps_now ?_ fun _ _ _ h => h.elim
  intro w₂ now h₂ _
  have h₁₂ := h₁.trans h₂
  refine keeps_then h₂.inv (keeps_pendingEvents h₂.inv (hsettled.since h₁₂.toSince))
    (fun w₃ ps h₃ hps => ?_) fun w₃ e h₃ he => ?_
  swap
  · have h := h₁₂.trans h₃
    exact .failed h.toSince he (hsettled w₃ h)
  obtain ⟨hnumbered, hwrites, hsource⟩ := hps
  have h₁₃ := h₁₂.trans h₃
  refine keeps_then h₃.inv (keeps_checkLive h₃.inv) (fun w₄ _ h₄ _ => ?_) fun w₄ e h₄ he => ?_
  swap
  · have h := h₁₃.trans h₄
    refine .failed h.toSince ?_ (hsettled w₄ h)
    rw [he.1]
    rfl
  have h₁₄ := h₁₃.trans h₄
  have hproposes : T.Proposes c w V ps := ⟨hV, hnumbered, ⟨_, hdecided, hwrites⟩, hsource, hapart⟩
  have hissued := History.mem_issued_of_suffix ((h₂.trans h₃).trans h₄).history hb
  refine (keeps_commit hissued (hno.since h₁₄.toSince) (hproposes.later hc h₁₄.toLater)
    (hsettled.since h₁₄.toSince)).bind h₄.inv ?_
    fun w₅ e _ he => .from h₁₄ he
  intro w₅ committed hw₅ hcommitted
  obtain ⟨w₄', h, h₄', hlength, hacc, rfl, hstored⟩ := hcommitted
  obtain ⟨hevents, hstop⟩ := hacc.events h₄'.inv hw₅
  obtain ⟨haccounted, -⟩ := hacc.earned hw₅
  -- the batch stands right behind the events that were decided on
  have htake : w₄'.events c.key = (w.events c.key).take V := by
    rw [← (h₁₄.trans h₄').take_events hc.tracked hV, hlength, List.take_length]
  have hshows₅ : T.Shows c.id (w₅.events c.key) root.state := by
    rw [hevents, htake]
    have hread : T.Reads c.id h.stored xs :=
      reads_of_written hc.fits.bound hhandled (hstored xs (hxs ▸ hwrites))
    exact hshows.append hread hreplay
  have hversion₅ : (h.stored.getLast?.map (·.sequence)).getD V = h.stop := by
    cases hlast : h.stored.getLast? with
    | none => exact absurd (List.getLast?_eq_none_iff.1 hlast) haccounted.nonempty
    | some e => rw [Commit.stop, hlast]; rfl
  rw [hversion₅]
  exact keeps_accepted hacc h₄'.inv hw₅ (hno.since (h₁₄.trans h₄').toSince) hid hshows₅

/-! ### Attempts -/

/-- The decision of an attempt, and what it does with it. -/
theorem keeps_decide {V : Nat} {st : σ} {l : LoadedStream ε}
    (hV : V ≤ (w.events c.key).length) (hshows : T.Shows c.id ((w.events c.key).take V) st)
    (hapart : Apart c V w) (hno : NoCommit c w) (hsettled : T.Settled c w) :
    Call.Keeps (T.discipline c hc) (T.Attempted c w)
      ((StoreCall.decide ⟨c.id, st, V, []⟩).bind fun decision =>
        (Call.ofExcept decision).bind fun decided =>
          if decided.uncommitted.isEmpty then .done []
          else c.store.commitRoot c.id c.source l decided)
      w := by
  intro w₁ hrely hw₁
  have h₁ : T.At c w w₁ := ⟨hrely.since, hw₁⟩
  have hq : T.Permits c w₁ (.decide ⟨c.id, st, V, []⟩) := hsettled w₁ h₁
  refine ⟨hq, ?_⟩
  intro decision w₂ hserves
  obtain ⟨hw₂, hlater, hhistory⟩ := hw₁.serves hc hq hserves
  have hquiet : Quiet (σ := σ) ⟨some c, .decide ⟨c.id, st, V, []⟩, decision⟩ → T.At c w w₂ :=
    fun hquiet => ⟨h₁.toSince.trans (.of_serves hw₁ hc hq hquiet hserves), hw₂⟩
  obtain ⟨w₃, ⟨hdecide, rfl⟩, rfl⟩ := hserves
  cases decision with
  | error e =>
    cases hconflict : e.isConflict with
    | true => exact .conflict hconflict h₁ (hsettled w₃ h₁) hlater hhistory rfl hconflict rfl
    | false =>
      have h₂ := hquiet ⟨rfl, hconflict⟩
      exact .failed h₂.toSince hconflict (hsettled _ h₂)
  | ok root =>
    have h₂ := hquiet ⟨rfl, rfl⟩
    have hsettled₂ := hsettled.since h₂.toSince
    change Call.Keeps _ _ (if root.uncommitted.isEmpty then _ else _) _
    split
    · exact .quiet h₂.toSince fun k hk => absurd hk (hsettled _ h₂ k)
    · refine (keeps_commitRoot h₂.inv (Nat.le_trans hV (h₂.events_length hc.tracked)) ?_ hdecide
        (hapart.later hc hV h₂.toLater) (hno.since h₂.toSince) hsettled₂).imp
        (fun _ _ _ ha => .from h₂ ha) h₂.inv
      rwa [h₂.take_events hc.tracked hV]

/-- **How an attempt ends.** -/
theorem keeps_attempt (hw : T.Inv w) (hcaught : Caught c w) (hno : NoCommit c w) :
    Call.Keeps (T.discipline c hc) (T.Attempted c w) (c.store.attempt c.id c.source) w := by
  unfold AggregateStore.attempt
  refine keeps_then hw (keeps_loadRoot hw) (fun w₁ r h₁ hr => ?_) fun w₁ e h₁ he => ?_
  swap
  · exact .failed h₁.toSince he.1 fun k => he.not_missed hcaught h₁.toSince h₁.inv
  obtain ⟨root, l⟩ := r
  obtain ⟨hfloor, hl, st, hroot, hshows⟩ := hr
  refine keeps_then h₁.inv (keeps_redelivered h₁.inv hl) (fun w₂ found h₂ hfound => ?_)
    fun w₂ e h₂ he => ?_
  swap
  · refine .failed (h₁.trans h₂).toSince (by rw [he.1]; rfl) ?_
    intro k hm
    have hlive := hm.live
    rw [he.2] at hlive
    cases hlive
  have h₁₂ := h₁.trans h₂
  have hV : l.version ≤ (w₂.events c.key).length :=
    Nat.le_trans hl.version_le (h₂.events_length hc.tracked)
  cases found with
  | some batch =>
    exact .quiet h₁₂.toSince fun k hm => hfound.eq_stored hcaught h₁₂.toSince h₁₂.inv hfloor hm
  | none =>
    have hsettled : T.Settled c w₂ := fun w₃ h₃ k =>
      (Apart.later hc hV hfound h₃.toLater).not_missed hcaught (h₁₂.trans h₃).toSince h₃.inv hfloor
        (Nat.le_trans hV (h₃.events_length hc.tracked))
    obtain rfl : root = ⟨c.id, st, l.version, []⟩ := hroot
    refine (keeps_decide hV ?_ hfound (hno.since h₁₂.toSince) hsettled).imp
      (fun _ _ _ ha => .from h₁₂ ha) h₂.inv
    rwa [h₂.take_events hc.tracked hl.version_le]

/-! ### Updates -/

/-- A call that has only been quiet since met no conflict. -/
theorem Since.conflicts_eq (hs : T.Since c w w') :
    History.conflicts c.number w'.history = History.conflicts c.number w.history := by
  obtain ⟨new, hnew, hquiet⟩ := hs.quiet
  rw [hnew, History.conflicts, List.filter_append, List.filter_eq_nil_iff.2, List.nil_append]
  · rfl
  · intro n hn
    by_cases hnumber : n.number = some c.number
    · simp [(hquiet n hn hnumber).2]
    · simp [hnumber]

/-- What an attempt yields without a conflict is the result of the update. -/
theorem Attempted.updated {r : Except Error (List CommittedEvent)} (hno : NoCommit c w)
    (ha : T.Attempted c w w' r) (hr : ∀ e, r = .error e → e.isConflict = false) :
    T.Updated c w' r := by
  cases ha with
  | quiet hs hmissed =>
    exact ⟨fun h hh hnumber => absurd hnumber (hno.since hs h hh), fun h hm => by rw [hmissed h hm]⟩
  | failed hs _ hmissed =>
    exact ⟨fun h hh hnumber => absurd hnumber (hno.since hs h hh),
      fun h hm => absurd hm (hmissed h)⟩
  | conflict hconflict => exact absurd hconflict (by simp [hr _ rfl])
  | committed hmem honly hmarks hmissed =>
    exact ⟨fun h hh hnumber => by
      obtain rfl := honly h hh hnumber
      exact ⟨rfl, hmarks⟩, fun h hm => absurd hm (hmissed h)⟩

/-- What an attempt leaves behind that met a conflict: one more is counted, and what is missed from
now on was met by this conflict, with a retry left. -/
theorem Attempted.after_conflict {e : Error} (hc : T.Admits c) (hno : NoCommit c w)
    (ha : T.Attempted c w w' (.error e)) (he : e.isConflict = true) :
    NoCommit c w' ∧
      History.conflicts c.number w'.history = History.conflicts c.number w.history + 1 ∧
      ∀ h, T.Missed c w' h →
        History.conflicts c.number w'.history ≤ c.store.config.maxConflictRetries := by
  cases ha with
  | failed _ hnone => simp [he] at hnone
  | @conflict _ w₁ n _ h₁ hmissed hlater hhistory hnumber hn hplain =>
    refine ⟨?_, ?_, ?_⟩
    · intro h hh
      rw [hhistory, History.commits_cons, hplain] at hh
      exact hno.since h₁.toSince h hh
    · rw [← h₁.toSince.conflicts_eq, hhistory, History.conflicts, History.conflicts,
        List.filter_cons_of_pos (by simp [hnumber, hn]), List.length_cons]
    · intro h hm
      obtain ⟨m, t, hsuffix, hm₁, hm₂, hcount, hmem⟩ := hm.met
      rcases List.suffix_cons_iff.1 (hhistory ▸ hsuffix) with heq | hold
      · rwa [hhistory, ← heq]
      · -- an earlier conflict: the attempt began with what led to it
        exact absurd (hm.of_later hc h₁.inv hlater ⟨m, t, hold, hm₁, hm₂, hcount, hmem⟩) (hmissed h)

/-- After its key is dropped, a call has caught up. -/
theorem caught_of_invalidated (hc : T.Admits c) (hw : T.Inv w) (h : T.At c w w')
    (hmarks : c.store.caching = true → (w.events c.key).length ≤ w'.marks c.cache c.key) :
    Caught c w' := by
  intro k hk hkey
  have hstop : k.stop ≤ (w.events c.key).length :=
    hkey ▸ hw.stop_le (h.toSince.metAfter hk).mem_commits
  unfold floor
  split
  next hcaching => exact Nat.le_trans hstop (hmarks hcaching)
  next => exact Nat.le_trans hstop (h.events_length hc.tracked)

theorem keeps_attempt_outcome (hw : T.Inv w) (hcaught : Caught c w) (hno : NoCommit c w) :
    Call.Keeps (T.discipline c hc)
      (fun w' (r : Except Error (Except Error (List CommittedEvent))) =>
        ∃ r', r = .ok r' ∧ T.Attempted c w w' r')
      (c.store.attempt c.id c.source).outcome w :=
  .outcome ((keeps_attempt hw hcaught hno).imp (fun _ _ _ h => ⟨_, rfl, h⟩) hw)

/-- **What is known once the attempts of an update have ended**, `retries` of which may follow the
next one after `done` conflicts. -/
theorem keeps_attempts {retries done : Nat} (hw : T.Inv w) (hcaught : Caught c w)
    (hno : NoCommit c w) (hdone : History.conflicts c.number w.history = done)
    (hretries : done + retries = c.store.config.maxConflictRetries) :
    Call.Keeps (T.discipline c hc) (T.Updated c)
      (c.store.attempts c.id c.source retries done) w := by
  induction retries generalizing done w with
  | zero =>
    unfold AggregateStore.attempts
    refine (keeps_attempt_outcome hw hcaught hno).bind hw ?_ ?_
    · intro w₁ r hw₁ hr
      obtain ⟨_, hr, ha⟩ := hr
      obtain rfl := Except.ok.inj hr
      cases r with
      | ok batch => exact ha.updated hno (by simp)
      | error e =>
        dsimp only
        split
        next he =>
          -- no retry is left, so nothing that would be missed was met by this conflict
          obtain ⟨hno₁, hcount, hlimit⟩ := ha.after_conflict hc hno he
          refine keeps_then hw₁ (keeps_storeInvalidate hw₁) ?_ fun _ _ _ h => h.elim
          intro w₂ _ h₂ _
          refine ⟨fun h hh hnumber => absurd hnumber (hno₁.since h₂.toSince h hh), ?_⟩
          intro h hm
          have := hlimit h (hm.of_since hc hw₁ h₂.toSince)
          omega
        next he =>
          refine ha.updated hno ?_
          intro e' he'
          obtain rfl := Except.error.inj he'
          exact Bool.eq_false_iff.2 he
    · intro w₁ e hw₁ hr
      obtain ⟨_, hr, -⟩ := hr
      cases hr
  | succ retries ih =>
    unfold AggregateStore.attempts
    refine (keeps_attempt_outcome hw hcaught hno).bind hw ?_ ?_
    · intro w₁ r hw₁ hr
      obtain ⟨_, hr, ha⟩ := hr
      obtain rfl := Except.ok.inj hr
      cases r with
      | ok batch => exact ha.updated hno (by simp)
      | error e =>
        dsimp only
        split
        next he =>
          obtain ⟨hno₁, hcount, -⟩ := ha.after_conflict hc hno he
          refine keeps_then hw₁ (keeps_storeInvalidate hw₁) ?_ fun _ _ _ h => h.elim
          intro w₂ _ h₂ hmarks
          have hno₂ := hno₁.since h₂.toSince
          have hcaught₂ := caught_of_invalidated hc hw₁ h₂ hmarks
          refine keeps_then h₂.inv (keeps_pause h₂.inv) ?_ ?_
          · intro w₃ _ h₃ _
            refine ih h₃.inv (hcaught₂.since hc h₃.toSince) (hno₂.since h₃.toSince) ?_ (by omega)
            rw [h₃.toSince.conflicts_eq, h₂.toSince.conflicts_eq, hcount, hdone]
          · intro w₃ e' h₃ hgone
            refine ⟨fun h hh hnumber => absurd hnumber (hno₂.since h₃.toSince h hh), ?_⟩
            intro h hm
            have hlive := hm.live
            rw [hgone.2] at hlive
            cases hlive
        next he =>
          refine ha.updated hno ?_
          intro e' he'
          obtain rfl := Except.error.inj he'
          exact Bool.eq_false_iff.2 he
    · intro w₁ e hw₁ hr
      obtain ⟨_, hr, -⟩ := hr
      cases hr

/-- **What is known once an update has ended**, if it was not called before. -/
theorem keeps_update (hw : T.Inv w) (hnew : ∀ n ∈ w.history, n.number ≠ some c.number) :
    Call.Keeps (T.discipline c hc) (T.Updated c) (c.store.update c.id c.source) w := by
  refine keeps_attempts hw ?_ ?_ ?_ (Nat.zero_add _)
  · intro h hm
    obtain ⟨n, t, hsuffix, hnumber, -⟩ := hm
    exact absurd hnumber (hnew n (hsuffix.subset List.mem_cons_self))
  · intro h hh hnumber
    obtain ⟨n, hn, hcommit⟩ := List.mem_filterMap.1 hh
    rw [Note.author_of_commit? hcommit] at hnumber
    exact hnew n hn hnumber
  · rw [History.conflicts, List.filter_eq_nil_iff.2]
    · rfl
    · intro n hn
      simp [hnew n hn]

end Setting

end EventLedger
