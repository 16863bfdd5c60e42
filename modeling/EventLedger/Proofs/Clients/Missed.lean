import EventLedger.Proofs.Clients.LastBatch

/-!
# Commits that a call would miss

A call that meets a conflict reads the stream again, and then it sees every commit that came before
the conflict.  So if one of those has its own source and still ends the stream, the call recognises
it instead of deciding again.

## Main definitions

* `Setting.Caught` — what is certain to be loaded includes the commits before the last conflict.
* `Setting.Settled` — the call misses nothing, and will not until it asks for a decision.

## Main results

* `Setting.Inv.position` — where the batch of a commit stands in the stream.
* `Setting.Missed.of_since` — nothing is missed all of a sudden.
* `Setting.LoadFails.not_missed`, `Setting.Apart.not_missed`, `Setting.Found.eq_stored` — **what a
  call that has caught up makes of a commit that it would have missed.**
-/

namespace EventLedger

variable {σ ε : Type}

namespace Setting

variable {T : Setting σ ε} {c d : Caller σ ε} {w w' : World σ ε} {h : Commit σ ε}

/-! ### Where commits stand -/

theorem eventsAfter_prefix {t t' : History σ ε} (ht : t <:+ t') (key : StreamKey) :
    T.eventsAfter key t <+: T.eventsAfter key t' := by
  obtain ⟨new, rfl⟩ := ht
  rw [eventsAfter, eventsAfter, History.stored_append, ← List.append_assoc]
  exact List.prefix_append _ _

theorem eventsAfter_commit {n : Note σ ε} (hcommit : n.commit? = some h) (t : History σ ε) :
    T.eventsAfter h.key (n :: t) = T.eventsAfter h.key t ++ h.stored := by
  rw [eventsAfter, History.stored_cons_of_some hcommit, if_pos rfl, ← List.append_assoc]
  rfl

/-- The events after a history end with those of the last commit. -/
theorem getLast?_eventsAfter {t : History σ ε} {key : StreamKey} {older : List (Commit σ ε)}
    (hlast : History.commitsOn key t = h :: older) (hne : h.stored ≠ []) :
    (T.eventsAfter key t).getLast? = h.stored.getLast? := by
  rw [eventsAfter, History.stored, hlast, List.reverse_cons, List.flatMap_append,
    List.flatMap_singleton, ← List.append_assoc, List.getLast?_append]
  cases hs : h.stored.getLast? with
  | none => exact absurd (List.getLast?_eq_none_iff.1 hs) hne
  | some e => rfl

/-- **Where the batch of a commit stands in the stream**: right behind the events before it. -/
theorem Inv.position {n : Note σ ε} {t : History σ ε} (hw : T.Inv w) (hn : n :: t <:+ w.history)
    (hcommit : n.commit? = some h) :
    T.eventsAfter h.key t ++ h.stored <+: w.events h.key ∧
      h.stop = (T.eventsAfter h.key t ++ h.stored).length := by
  have hacc := hw.accounted n t h hn hcommit
  have hstart : T.eventsAfter h.key t ++ h.stored <+: w.events h.key := by
    rw [hw.events h.key hacc.tracked, ← eventsAfter_commit hcommit]
    exact eventsAfter_prefix hn h.key
  refine ⟨hstart, ?_⟩
  have hlast : (T.eventsAfter h.key t ++ h.stored).getLast? = h.stored.getLast? := by
    rw [List.getLast?_append]
    cases hs : h.stored.getLast? with
    | none => exact absurd (List.getLast?_eq_none_iff.1 hs) hacc.nonempty
    | some e => rfl
  have hseq := (hw.gapFree h.key hacc.tracked).sequence_getLast?_take hstart.length_le
  rw [show (w.log.stream h.key).values = w.events h.key from rfl,
    ← List.prefix_iff_eq_take.1 hstart, hlast] at hseq
  exact hseq

theorem Inv.stop_le (hw : T.Inv w) (hh : h ∈ History.commits w.history) :
    h.stop ≤ (w.events h.key).length := by
  obtain ⟨n, t, hn, hcommit⟩ := History.exists_note_of_mem_commits hh
  obtain ⟨hstart, hstop⟩ := hw.position hn hcommit
  exact hstop ▸ hstart.length_le

/-- The batch of the last commit to a stream ends it. -/
theorem Inv.stop_of_last (hw : T.Inv w) {key : StreamKey}
    (hlast : (History.commitsOn key w.history).head? = some h) :
    h.stop = (w.events key).length := by
  obtain ⟨older, holder⟩ := List.head?_eq_some_iff.1 hlast
  have hmem : h ∈ History.commitsOn key w.history := holder ▸ List.mem_cons_self
  obtain ⟨hh, hkey⟩ := List.mem_filter.1 hmem
  obtain rfl : h.key = key := by simpa using hkey
  obtain ⟨n, t, hn, hcommit⟩ := History.exists_note_of_mem_commits hh
  have hacc := hw.accounted n t h hn hcommit
  have hevents : (w.events h.key).getLast? = h.stored.getLast? := by
    rw [hw.events h.key hacc.tracked]
    exact getLast?_eventsAfter holder hacc.nonempty
  have hseq := (hw.gapFree h.key hacc.tracked).sequence_getLast?_take (Nat.le_refl _)
  rw [List.take_length, show (w.log.stream h.key).values = w.events h.key from rfl, hevents] at hseq
  exact hseq

/-- A commit whose batch ends the stream: what was before it, and that it is accounted for. -/
theorem Inv.events_of_stop (hw : T.Inv w) (hh : h ∈ History.commits w.history)
    (hstop : h.stop = (w.events h.key).length) :
    ∃ t, T.Accounted t h ∧ w.events h.key = T.eventsAfter h.key t ++ h.stored := by
  obtain ⟨n, t, hn, hcommit⟩ := History.exists_note_of_mem_commits hh
  obtain ⟨hstart, hlen⟩ := hw.position hn hcommit
  exact ⟨t, hw.accounted n t h hn hcommit, (hstart.eq_of_length (hlen.symm.trans hstop)).symm⟩

/-! ### Met and missed -/

/-- Without a conflict since, no further commit was met. -/
theorem Since.metAfter (hs : T.Since c w w') (hm : c.MetAfter h w'.history) :
    c.MetAfter h w.history := by
  obtain ⟨new, hnew, hquiet⟩ := hs.quiet
  obtain ⟨n, t, hsuffix, hnumber, hconflict, hrest⟩ := hm
  rcases History.mem_or_suffix (hnew ▸ hsuffix) with hmem | hold
  · have hquiet := (hquiet n hmem hnumber).2
    rw [hconflict] at hquiet
    cases hquiet
  · exact ⟨n, t, hold, hnumber, hconflict, hrest⟩

/-- What is missed later was missed before, if it was met before. -/
theorem Missed.of_later (hc : T.Admits c) (hw : T.Inv w) (hle : T.Later w w')
    (hmet : c.MetAfter h w.history) (hm : T.Missed c w' h) : T.Missed c w h where
  met := hmet
  author := hm.author
  key := hm.key
  source := hm.source
  last := by
    have hstop : h.stop ≤ (w.events c.key).length := hm.key ▸ hw.stop_le hmet.mem_commits
    have hlen := hle.events_length hc.tracked
    have hlast := hm.last
    omega
  live := by
    cases hfired : w.fired c.number with
    | false => rfl
    | true => exact (hle.fired _ hfired).symm.trans hm.live
  thorough := hm.thorough
  room := Nat.lt_of_le_of_lt (hle.events_length hc.tracked) hm.room

/-- **Nothing is missed all of a sudden.** -/
theorem Missed.of_since (hc : T.Admits c) (hw : T.Inv w) (hs : T.Since c w w')
    (hm : T.Missed c w' h) : T.Missed c w h :=
  .of_later hc hw hs.toLater (hs.metAfter hm.met) hm

/-- A missed commit was made by a call with the same source, and its batch ends the stream. -/
theorem Missed.events (hw : T.Inv w) (hm : T.Missed c w h) :
    ∃ t d, T.Accounted t h ∧ T.Earned t d h ∧ d.source = c.source ∧
      w.events c.key = T.eventsAfter c.key t ++ h.stored := by
  obtain ⟨d, hd, hsource⟩ := hm.author
  obtain ⟨t, hacc, hevents⟩ := hw.events_of_stop hm.met.mem_commits (hm.key ▸ hm.last)
  exact ⟨t, d, hacc, hacc.call d hd, hsource, hm.key ▸ hevents⟩

theorem Missed.lastCarries (hw : T.Inv w) (hm : T.Missed c w h) :
    LastCarries c.source (w.events c.key) := by
  obtain ⟨t, d, hacc, hearned, hsource, hevents⟩ := hm.events hw
  obtain ⟨s, hs⟩ := Option.ne_none_iff_exists'.1 hm.source
  cases hlast : h.stored.getLast? with
  | none => exact absurd (List.getLast?_eq_none_iff.1 hlast) hacc.nonempty
  | some e =>
    refine ⟨s, e, hs, by rw [hevents, List.getLast?_append, hlast, Option.some_or], ?_⟩
    have he := hearned.source e (List.mem_of_getLast? hlast)
    rw [AggregateStore.carries, he, hsource, hs]
    exact beq_self_eq_true _

theorem Missed.trailingBatch_eq (hw : T.Inv w) (hm : T.Missed c w h) :
    trailingBatch (w.events c.key) = h.stored := by
  obtain ⟨t, d, hacc, hearned, -, hevents⟩ := hm.events hw
  rw [hevents]
  exact trailingBatch_append_batch hacc.nonempty hacc.batch (hm.key ▸ hearned.fresh)

/-- The state after the events that a decision emitted. -/
theorem Decided.shows {es fs : List CommittedEvent} {xs : List ε} (hc : T.Admits c)
    (hxs : T.Decided c es xs) (hfs : List.Forall₂ (fun x e => T.Writes x e.type e.payload) xs fs) :
    ∃ st, T.Shows c.id (es ++ fs) st := by
  obtain ⟨st, root, hshows, hdecide, rfl⟩ := hxs
  obtain ⟨ys, huncommitted, hreplay, hhandled, -, -⟩ := (hc.emits _ _ hdecide).spec
  rw [List.nil_append] at huncommitted
  rw [huncommitted] at hfs
  exact ⟨root.state, hshows.append (reads_of_written hc.fits.bound hhandled hfs) hreplay⟩

theorem Missed.shows (hw : T.Inv w) (hm : T.Missed c w h) :
    ∃ st, T.Shows c.id (w.events c.key) st := by
  obtain ⟨t, d, -, hearned, -, hevents⟩ := hm.events hw
  obtain ⟨xs, hxs, hwrites⟩ := hearned.decided
  have hid : d.id = c.id := congrArg StreamKey.id (hearned.key.symm.trans hm.key)
  rw [hevents, ← hid, ← hm.key]
  exact hxs.shows hearned.admits hwrites

/-! ### Catching up -/

/-- What is certain to be loaded includes the commits that were met. -/
def Caught (c : Caller σ ε) (w : World σ ε) : Prop :=
  ∀ h, c.MetAfter h w.history → h.key = c.key → h.stop ≤ floor c w

/-- The call misses nothing, and that remains so as long as it neither commits nor meets a conflict.
-/
def Settled (T : Setting σ ε) (c : Caller σ ε) (w : World σ ε) : Prop :=
  ∀ w', T.At c w w' → ∀ h, ¬T.Missed c w' h

theorem Caught.since (hc : T.Admits c) (h : Caught c w) (hs : T.Since c w w') : Caught c w' :=
  fun k hk hkey => Nat.le_trans (h k (hs.metAfter hk) hkey) (floor_mono hc hs.toLater)

theorem Settled.since (h : T.Settled c w) (hs : T.Since c w w') : T.Settled c w' :=
  fun w'' h'' k => h w'' ⟨hs.trans h''.toSince, h''.inv⟩ k

variable {V : Nat}

/-- A call that has caught up and would miss a commit has loaded all events. -/
theorem Missed.version_eq (hcaught : Caught c w) (hs : T.Since c w w') (hfloor : floor c w ≤ V)
    (hV : V ≤ (w'.events c.key).length) (hm : T.Missed c w' h) : V = (w'.events c.key).length := by
  have hle := hcaught h (hs.metAfter hm.met) hm.key
  have hlast := hm.last
  omega

/-- A call that stands apart misses nothing. -/
theorem Apart.not_missed (hcaught : Caught c w) (hs : T.Since c w w') (hw' : T.Inv w')
    (hfloor : floor c w ≤ V) (hV : V ≤ (w'.events c.key).length) (hapart : Apart c V w') :
    ¬T.Missed c w' h := by
  intro hm
  have hall := hm.version_eq hcaught hs hfloor hV
  rcases hapart with hlt | hnot
  · omega
  · rw [hall, List.take_length] at hnot
    exact hnot (hm.lastCarries hw')

/-- A call whose loading fails misses nothing. -/
theorem LoadFails.not_missed {e : Error} (hcaught : Caught c w)
    (hs : T.Since c w w') (hw' : T.Inv w') (hfails : T.LoadFails c (floor c w) w' e) :
    ¬T.Missed c w' h := by
  intro hm
  obtain ⟨-, ⟨-, hfired⟩ | hroom | ⟨V, hfloor, hV, e', he', -⟩⟩ := hfails
  · rw [hm.live] at hfired
    cases hfired
  · exact absurd hm.room (Nat.not_lt.2 hroom)
  · -- the store reads whatever was read before the missed batch, and the batch itself
    obtain ⟨st, hst⟩ := hm.shows hw'
    rw [hm.version_eq hcaught hs hfloor hV, List.take_length, hm.thorough.rebuilt hst] at he'
    cases he'

/-- **A batch that is found is the one that would be missed.** -/
theorem Found.eq_stored {batch : List CommittedEvent} (hcaught : Caught c w) (hs : T.Since c w w')
    (hw' : T.Inv w') (hfloor : floor c w ≤ V) (hfound : Found c V batch w')
    (hm : T.Missed c w' h) : batch = h.stored := by
  obtain ⟨V', hVV', hV', rfl, -⟩ := hfound
  have hall := hm.version_eq hcaught hs (Nat.le_trans hfloor hVV') hV'
  rw [hall, List.take_length, hm.trailingBatch_eq hw']

end Setting

end EventLedger
