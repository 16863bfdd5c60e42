import EventLedger.Proofs.Clients.Requests

/-!
# What loading yields

Whether it comes from a cache, from a snapshot or from a stream that grew meanwhile, a loaded
aggregate is the state after the first `V` stored events for some `V`, and `V` is no smaller than
what the caller could count on when it began.

## Main definitions

* `Setting.floor` — how many events a load that begins now is certain to find.
* `Setting.Loaded`, `Setting.LoadFails` — what loading yields, and why it may fail.

## Main results

* `Setting.keeps_loadRoot` — **what loading yields.**
-/

namespace EventLedger

variable {σ ε : Type}

namespace Setting

variable (T : Setting σ ε) (c : Caller σ ε)

/-- How many events a load that begins now is certain to find. -/
def floor (w : World σ ε) : Nat :=
  if c.store.caching then w.marks c.cache c.key else (w.events c.key).length

/-- The aggregate is what the stored events up to the version of a genuine stream show, at least
the first `low` ones. -/
structure Loaded (low : Nat) (w : World σ ε) (r : Root σ ε × LoadedStream ε) : Prop where
  low_le : low ≤ r.2.version
  genuine : T.Genuine c.id (w.events c.key) r.2
  shown : ∃ st, r.1 = ⟨c.id, st, r.2.version, []⟩ ∧
    T.Shows c.id ((w.events c.key).take r.2.version) st

/-- Loading fails if the caller has cancelled, if the numbers of the stream are used up, or if the
store fails on the first `V` events for some `V` that is at least `low`. -/
def LoadFails (low : Nat) (w : World σ ε) (e : Error) : Prop :=
  e.isConflict = false ∧
    (Gone c w e ∨ greatestSequence ≤ (w.events c.key).length ∨
      ∃ V, low ≤ V ∧ V ≤ (w.events c.key).length ∧
        T.FailsAs c.store.upgraders.maxPasses c.id ((w.events c.key).take V) e)

variable {T} {c} {w w' : World σ ε} {hc : T.Admits c} {low : Nat}

theorem Gone.loadFails {e : Error} (h : Gone c w e) : T.LoadFails c low w e := by
  refine ⟨?_, .inl h⟩
  rw [h.1]
  rfl

theorem LoadFails.of_le {e : Error} {low' : Nat} (h : T.LoadFails c low w e) (hle : low' ≤ low) :
    T.LoadFails c low' w e := by
  obtain ⟨hconflict, h⟩ := h
  refine ⟨hconflict, h.imp id (.imp id ?_)⟩
  rintro ⟨V, hlow, hV⟩
  exact ⟨V, Nat.le_trans hle hlow, hV⟩

theorem Loaded.later {r : Root σ ε × LoadedStream ε} (hc : T.Admits c) (h : T.Loaded c low w r)
    (hle : T.Later w w') : T.Loaded c low w' r where
  low_le := h.low_le
  genuine := h.genuine.mono (hle.events c.key hc.tracked)
  shown := by rw [hle.take_events hc.tracked h.genuine.version_le]; exact h.shown

theorem Loaded.of_le {low' : Nat} {r : Root σ ε × LoadedStream ε} (h : T.Loaded c low w r)
    (hle : low' ≤ low) : T.Loaded c low' w r :=
  ⟨Nat.le_trans hle h.low_le, h.genuine, h.shown⟩

theorem floor_le (hc : T.Admits c) (hw : T.Inv w) : floor c w ≤ (w.events c.key).length := by
  unfold floor
  split
  · exact hw.marks_le c.cache c.key hc.tracked
  · exact Nat.le_refl _

theorem floor_mono (hc : T.Admits c) (h : T.Later w w') : floor c w ≤ floor c w' := by
  unfold floor
  split
  · exact h.marks_le c.cache c.key hc.tracked
  · exact h.events_length hc.tracked

/-! ### Reading from storage -/

/-- A usable snapshot is sound. -/
theorem keeps_usableSnapshot (hw : T.Inv w) :
    Call.Keeps (T.discipline c hc)
      (T.Ends c w (fun w' r => ∀ s, r = some s → T.Sound c.id (w'.events c.key) s) (Gone c))
      (AggregateStore.usableSnapshot c.key) w := by
  unfold AggregateStore.usableSnapshot
  refine keeps_seq hw keeps_loadSnapshot ?_ fun _ _ _ h => h.elim
  intro w₁ r h₁ hr
  split
  · exact keeps_failed ⟨rfl, hr rfl⟩
  · exact keeps_done (by simp)
  · exact keeps_done (by simp)
  next s =>
    refine keeps_seq h₁.inv keeps_readState ?_ fun _ _ _ h => h.elim
    intro w₂ r h₂ hread
    rcases hr with ⟨hkey, hoffered⟩ | ⟨reason, hunreadable⟩
    · have hsound := h₂.inv.offered s ((h₂.history.filterMap _).subset hoffered)
        (hkey ▸ hc.tracked)
      rw [hkey] at hsound
      split
      · refine keeps_done ?_
        intro s' hs'
        obtain rfl : s = s' := by simpa using hs'
        exact hsound
      · exact keeps_done (by simp)
    · -- a snapshot that cannot be read is passed over
      rw [← hc.fits.codec, hunreadable] at hread
      subst hread
      exact keeps_done (by simp)

theorem keeps_startingSnapshot (hw : T.Inv w) :
    Call.Keeps (T.discipline c hc)
      (T.Ends c w (fun w' r => ∀ s, r = some s → T.Sound c.id (w'.events c.key) s) (Gone c))
      (c.store.startingSnapshot c.key) w := by
  unfold AggregateStore.startingSnapshot
  split
  · exact keeps_done (by simp)
  · exact keeps_seq hw (keeps_checkLive hw) (fun w₁ _ h₁ _ => keeps_usableSnapshot h₁.inv)
      fun _ _ _ h => h

theorem shows_start (hc : T.Admits c) {snapshot : Option Snapshot}
    (hsound : ∀ s, snapshot = some s → T.Sound c.id (w.events c.key) s) :
    ∃ st, T.Shows c.id ((w.events c.key).take ((snapshot.map (·.sequence)).getD 0)) st := by
  cases snapshot with
  | none => exact ⟨_, .nil hc.fits.bound⟩
  | some s =>
    obtain ⟨-, st, -, hst⟩ := hsound s rfl
    exact ⟨st, hst⟩

/-- What is read from storage is genuine and holds everything that was stored before. -/
theorem keeps_readStream (hw : T.Inv w) :
    Call.Keeps (T.discipline c hc)
      (T.Ends c w (fun w' l => T.Genuine c.id (w'.events c.key) l ∧
          (w.events c.key).length ≤ l.version ∧
          (T.reader c.store.upgraders.maxPasses).currentForms c.id l.committed = .ok l.upgraded)
        (T.LoadFails c (w.events c.key).length))
      (c.store.readStream c.id) w := by
  unfold AggregateStore.readStream
  refine keeps_seq hw (keeps_startingSnapshot hw) ?_
    fun _ _ _ h => h.loadFails
  intro w₁ snapshot h₁ hsound
  refine keeps_seq h₁.inv (keeps_checkLive h₁.inv) ?_
    fun _ _ _ h => h.loadFails
  intro w₂ _ h₂ _
  have h₁₂ := h₁.trans h₂
  have hsound₂ : ∀ s, snapshot = some s → T.Sound c.id (w₂.events c.key) s :=
    fun s hs => (hsound s hs).mono (h₂.events c.key hc.tracked)
  have hstart : (snapshot.map (·.sequence)).getD 0 ≤ (w₂.events c.key).length := by
    cases snapshot with
    | none => exact Nat.zero_le _
    | some s => exact (hsound₂ s rfl).1
  generalize hs : (snapshot.map (·.sequence)).getD 0 = start at hstart ⊢
  split
  next hroom => exact keeps_failed ⟨rfl, .inr (.inl (Nat.le_trans hroom hstart))⟩
  next =>
    refine keeps_seq h₂.inv (keeps_load h₂.inv (Nat.le_add_left 1 start))
      (fun w₃ (committed : List CommittedEvent) h₃ hcommitted => ?_) fun _ _ _ h => h.loadFails
    rw [Nat.add_sub_cancel] at hcommitted
    have hstart₃ := Nat.le_trans hstart (h₃.events_length hc.tracked)
    have hversion : (committed.getLast?.map (·.sequence)).getD start = (w₃.events c.key).length :=
      hcommitted ▸ (h₃.inv.gapFree c.key hc.tracked).sequence_getLast?_drop hstart₃
    have hlow : (w.events c.key).length ≤ (w₃.events c.key).length :=
      (h₁₂.trans h₃).events_length hc.tracked
    have hsound₃ : ∀ s, snapshot = some s → T.Sound c.id (w₃.events c.key) s :=
      fun s hs => (hsound₂ s hs).mono (h₃.events c.key hc.tracked)
    rw [hc.fits.currentForms]
    cases hforms : (T.reader c.store.upgraders.maxPasses).currentForms c.id committed with
    | error e =>
      -- what is hidden by the snapshot was read before
      refine keeps_failed ⟨AggregateStore.isConflict_of_currentForms hforms,
        .inr (.inr ⟨_, hlow, Nat.le_refl _, ?_⟩)⟩
      obtain ⟨st, hst⟩ := shows_start hc hsound₃
      rw [hs] at hst
      rw [List.take_length, ← List.take_append_drop start (w₃.events c.key), ← hcommitted]
      exact .of_currentForms hst hforms
    | ok xs =>
      refine keeps_done ⟨⟨?_, ?_, hsound₃, ?_, _, hc.fits.bound, hforms⟩, ?_, hforms⟩
      · simpa only [LoadedStream.snapshotVersion, hs, hversion] using hstart₃
      · exact Nat.le_of_eq hversion
      · simpa only [LoadedStream.snapshotVersion, hs, hversion, List.take_length] using hcommitted
      · exact Nat.le_trans hlow (Nat.le_of_eq hversion.symm)

/-! ### Replaying -/

theorem keeps_startingState {l : LoadedStream ε} (hw : T.Inv w)
    (hl : T.Genuine c.id (w.events c.key) l) :
    Call.Keeps (T.discipline c hc) (T.Ends c w (fun _ st => T.StartsAt l st) Never)
      (c.store.startingState c.id l) w := by
  unfold AggregateStore.startingState
  split
  next hnone =>
    refine keeps_done ?_
    rw [StartsAt, hnone, hc.fits.aggregate]
  next s hsome =>
    refine keeps_seq hw keeps_readState ?_ fun _ _ _ h => h
    intro w₁ r h₁ hread
    obtain ⟨-, st, hst, -⟩ := hl.snapshot s hsome
    rw [hst] at hread
    subst hread
    refine keeps_done ?_
    rw [StartsAt, hsome]
    exact hst

theorem keeps_rebuild {l : LoadedStream ε} (hw : T.Inv w)
    (hl : T.Genuine c.id (w.events c.key) l) :
    Call.Keeps (T.discipline c hc)
      (T.Ends c w
        (fun w' root => ∃ st, root = ⟨c.id, st, l.version, []⟩ ∧
          T.Shows c.id ((w'.events c.key).take l.version) st)
        (fun _ e => ∃ st, T.StartsAt l st ∧ T.aggregate.replay st l.upgraded = .error e))
      (c.store.rebuild c.id l) w := by
  unfold AggregateStore.rebuild
  refine keeps_seq hw (keeps_startingState hw hl) ?_ fun _ _ _ h => h.elim
  intro w₁ st h₁ hst
  rw [hc.fits.aggregate]
  cases hreplay : T.aggregate.replay st l.upgraded with
  | error e => exact keeps_failed ⟨st, hst, hreplay⟩
  | ok st' =>
    exact keeps_done ⟨st', rfl, (hl.mono (h₁.events c.key hc.tracked)).shows hst hreplay⟩

/-- Reading from storage and replaying what was read. -/
theorem keeps_readStream_rebuild (hw : T.Inv w) :
    Call.Keeps (T.discipline c hc)
      (T.Ends c w (T.Loaded c (w.events c.key).length) (T.LoadFails c (w.events c.key).length))
      ((c.store.readStream c.id).bind fun l =>
        (c.store.rebuild c.id l).bind fun root => .done (root, l)) w := by
  refine keeps_seq hw (keeps_readStream hw) ?_ fun _ _ _ h => h
  intro w₁ l h₁ hl
  obtain ⟨hl, hlow, hforms⟩ := hl
  refine keeps_seq h₁.inv (keeps_rebuild h₁.inv hl) ?_ ?_
  · intro w₂ root h₂ hroot
    exact keeps_done ⟨hlow, hl.mono (h₂.events c.key hc.tracked), hroot⟩
  · intro w₂ e h₂ he
    obtain ⟨st, hst, hreplay⟩ := he
    have hl₂ := hl.mono (h₂.events c.key hc.tracked)
    refine ⟨Aggregate.isConflict_of_replay hreplay,
      .inr (.inr ⟨l.version, hlow, hl₂.version_le, ?_⟩)⟩
    rw [hl₂.take_version]
    exact .of_replay hc.fits.bound (hst.shows hl₂) hforms hreplay

/-- **What reading an aggregate from storage yields.** -/
theorem keeps_readRoot (hw : T.Inv w) :
    Call.Keeps (T.discipline c hc)
      (T.Ends c w (T.Loaded c (w.events c.key).length) (T.LoadFails c (w.events c.key).length))
      (c.store.readRoot c.id) w := by
  unfold AggregateStore.readRoot
  split
  next =>
    refine keeps_seq hw keeps_generation ?_ fun _ _ _ h => h.elim
    intro w₁ g h₁ hg
    have hlen := h₁.events_length hc.tracked
    -- first the stream is read and replayed, then it is offered to the cache
    have hsplit : ∀ (f : Root σ ε → LoadedStream ε → StoreCall σ ε (Root σ ε × LoadedStream ε)),
        ((c.store.readStream c.id).bind fun l => (c.store.rebuild c.id l).bind fun root => f root l) =
        ((c.store.readStream c.id).bind fun l => (c.store.rebuild c.id l).bind fun root =>
          .done (root, l)).bind fun r => f r.1 r.2 := by
      intro f
      simp only [Call.bind_assoc, Call.done_bind]
    simp only [Call.bind_eq_bind, Call.pure_eq_done]
    rw [hsplit]
    refine keeps_seq h₁.inv (keeps_readStream_rebuild h₁.inv) ?_
      fun w₂ e _ he => he.of_le hlen
    intro w₂ r h₂ hr
    have hfaithful : T.Faithful c.id (w₂.events c.key) r.2 :=
      ⟨hr.genuine, hr.shown.imp fun _ h => h.2⟩
    have hkeep : Call.Keeps (T.discipline c hc)
        (T.Ends c w₂ (fun _ _ => True) Never) (StoreCall.keep c.key g r.2) w₂ := by
      refine keeps_keep hfaithful ?_
      intro w₃ h₃ hsame
      -- a key that was not dropped has the mark that it had when its generation was taken
      have hmark := (h₂.trans h₃).marks_eq c.cache c.key (by rw [hsame, hg])
      rw [hmark]
      exact Nat.le_trans (h₁.inv.marks_le c.cache c.key hc.tracked) hr.low_le
    refine keeps_seq h₂.inv hkeep ?_ fun _ _ _ h => h.elim
    intro w₃ _ h₃ _
    exact keeps_done ((hr.later hc h₃.toLater).of_le hlen)
  next => exact keeps_readStream_rebuild hw

/-- **What loading yields**, whether the aggregate is found in a cache or read from storage. -/
theorem keeps_loadRoot (hw : T.Inv w) :
    Call.Keeps (T.discipline c hc) (T.Ends c w (T.Loaded c (floor c w)) (T.LoadFails c (floor c w)))
      (c.store.loadRoot c.id) w := by
  have hcached : Call.Keeps (T.discipline c hc)
      (T.Ends c w (fun w' r => ∀ l, r = some l → T.Faithful c.id (w'.events c.key) l ∧
        floor c w ≤ l.version) Never) (c.store.cachedStream c.id) w := by
    unfold AggregateStore.cachedStream
    split
    next hcaching =>
      refine keeps_imp hw keeps_cached ?_ fun _ _ _ h => h
      intro w₁ r h₁ hr l hl
      obtain ⟨hfaithful, hmark⟩ := hr l hl
      refine ⟨hfaithful, ?_⟩
      rw [floor, if_pos hcaching]
      exact Nat.le_trans (h₁.marks_le c.cache c.key hc.tracked) hmark
    next => exact keeps_done fun l hl => by cases hl
  unfold AggregateStore.loadRoot
  refine keeps_seq hw hcached ?_ fun _ _ _ h => h.elim
  intro w₁ r h₁ hr
  split
  next l =>
    obtain ⟨⟨hl, st, hshows⟩, hfloor⟩ := hr l rfl
    refine keeps_seq h₁.inv (keeps_rebuild h₁.inv hl) ?_ ?_
    · intro w₂ root h₂ hroot
      exact keeps_done ⟨hfloor, hl.mono (h₂.events c.key hc.tracked), hroot⟩
    · intro w₂ e h₂ he
      -- what is in a cache was replayed before
      obtain ⟨st', hst', hreplay⟩ := he
      rw [hl.replay_eq_ok hst' hshows] at hreplay
      cases hreplay
  next =>
    have hlen : floor c w ≤ (w₁.events c.key).length :=
      Nat.le_trans (floor_le hc hw) (h₁.events_length hc.tracked)
    exact keeps_imp h₁.inv (keeps_readRoot h₁.inv) (fun _ _ _ h => h.of_le hlen)
      fun _ _ _ h => h.of_le hlen

end Setting

end EventLedger
