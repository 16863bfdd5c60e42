import EventLedger.Proofs.Snapshots.Regime

/-!
# Updates that bring snapshots at intervals

An update compares the last event that it has committed with the snapshot that the stream it was
decided on starts from.  That may be an old snapshot, read some time ago or handed out by a cache,
but the one on the shelf is never older.  So an update that brings nothing has committed less than
an interval beyond the one on the shelf, and one that brings its snapshot leaves one there that is
at least as new, even if the storage passes its own over.

## Main definitions

* `Regime.Finds` — a part of a call that ends as it should if it succeeds.
* `Regime.Near` — what a call has committed is near the snapshot on the shelf.

## Main results

* `AggregateStore.offerSnapshot_of_every` — when a snapshot is brought.
* `Regime.finds_loadRoot` — **a stream that was loaded starts from no newer snapshot than that on the
  shelf.**
* `Regime.keeps_offerSnapshot` — after a batch its update brings a snapshot, or it is near.
* `Regime.keeps_program` — **what a call has committed at its end is near the snapshot.**
-/

namespace EventLedger

open Call (Asks Ends Keeps)

variable {σ ε α β : Type}

/-- A store that brings snapshots at intervals brings one if the last one is an interval behind. -/
theorem AggregateStore.offerSnapshot_of_every {s : AggregateStore σ ε} {root : Root σ ε}
    {n version last : Nat} {form : Json} (hevery : s.snapshots = some (.every n)) (hn : 1 ≤ n)
    (hform : s.codec.writeState root.state = .ok form) :
    s.offerSnapshot root version last =
      if n ≤ version - last then
        StoreCall.now.bind fun now => (StoreCall.tryStorage (.storeSnapshot
          ⟨s.keyOf root.id, version, form,
            snapshotMetadata (s.keyOf root.id) version now.text⟩)).bind fun _ => .done ()
      else .done () := by
  unfold offerSnapshot
  rw [hevery]
  simp only [snapshotDue, SnapshotStrategy.rolls, SnapshotStrategy.decides, hform]
  by_cases hdue : n ≤ version - last
  · simp [hdue, Nat.lt_of_lt_of_le Nat.zero_lt_one hn]
  · simp [hdue]

namespace Regime

/-! ### Loading -/

/-- A part of a call that makes permitted requests only and, if it succeeds, ends as `Q` says. -/
abbrev Finds (R : Regime σ ε) (c : Caller σ ε) (Q : Commons ε → α → Prop) (p : StoreCall σ ε α)
    (w : Commons ε) : Prop :=
  Keeps (R.discipline c) (fun w r => ∀ a, r = .ok a → Q w a) p w

variable {R : Regime σ ε} {c : Caller σ ε} {w : Commons ε} {i : Nat} {Q : Commons ε → α → Prop}
  {Q' : Commons ε → β → Prop} {s : AggregateStore σ ε} {key : StreamKey} {id : AggregateId}

theorem finds_done {a : α} (h : Q w a) : R.Finds c Q (.done a) w := by
  rintro _ ⟨⟩
  exact h

theorem finds_failed (e : Error) : R.Finds c Q (.failed e) w := by
  rintro _ ⟨⟩

theorem Finds.bind {p : StoreCall σ ε α} {f : α → StoreCall σ ε β} (hp : R.Finds c Q p w)
    (hw : R.Inv w) (hf : ∀ w a, R.Inv w → Q w a → R.Finds c Q' (f a) w) :
    R.Finds c Q' (p.bind f) w :=
  Keeps.bind hw hp (fun w a hw ha => hf w a hw (ha a rfl)) fun _ _ _ _ => by rintro _ ⟨⟩

theorem finds_of_passive {J : Commons ε → Prop} {p : StoreCall σ ε α} (hJ : Stable c.number J)
    (hp : Asks StoreRequest.IsPassive p) (hw : R.Inv w) (hJw : J w) :
    R.Finds c (fun w _ => J w) p w :=
  (keeps_of_passive hJ hp hJw).imp (fun _ _ _ h _ _ => h) hw

theorem finds_checkLive {J : Commons ε → Prop} (hJ : Stable c.number J) (hw : R.Inv w)
    (hJw : J w) : R.Finds c (fun w _ => J w) StoreCall.checkLive w :=
  finds_of_passive hJ (AggregateStore.asks_checkLive.imp fun _ => StoreRequest.IsLooking.isPassive)
    hw hJw

/-- A snapshot that is found is on the shelf. -/
theorem finds_loadSnapshot : R.Finds c
    (fun w (a : Except Error (Option Snapshot)) =>
      ∀ x, a = .ok (some x) → x.sequence ≤ w.reflected key)
    (StoreCall.tryStorage (.loadSnapshot key)) w := by
  intro w₁ _ _
  refine ⟨trivial, fun a w₂ ha => finds_done ?_⟩
  rintro x rfl
  rcases ha with ⟨hserve, -⟩ | ⟨-, ⟨e, he⟩, -⟩
  · exact Nat.le_of_eq (SnapshotShelf.reflected_of_load (Depot.load_of_serve hserve)).symm
  · cases he

theorem finds_usableSnapshot (hw : R.Inv w) : R.Finds c
    (fun w x => (x.map (·.sequence)).getD 0 ≤ w.reflected key)
    (AggregateStore.usableSnapshot key) w := by
  refine finds_loadSnapshot.bind hw fun w₁ a hw₁ hfound => ?_
  match a with
  | .error e => cases e <;> first | exact finds_failed _ | exact finds_done (Nat.zero_le _)
  | .ok none => exact finds_done (Nat.zero_le _)
  | .ok (some x) =>
    refine (finds_of_passive (p := StoreCall.readState x.state) (stable_reflected _ key x.sequence)
      ⟨trivial, fun _ => trivial⟩ hw₁ (hfound x rfl)).bind hw₁ fun w₂ state hw₂ hle => ?_
    cases state with
    | error reason => exact finds_done (Nat.zero_le _)
    | ok state => exact finds_done hle

theorem finds_startingSnapshot (hw : R.Inv w) : R.Finds c
    (fun w x => (x.map (·.sequence)).getD 0 ≤ w.reflected key) (s.startingSnapshot key) w := by
  unfold AggregateStore.startingSnapshot
  split
  · exact finds_done (Nat.zero_le _)
  · exact (finds_checkLive (stable_true _) hw trivial).bind hw
      fun w₁ _ hw₁ _ => finds_usableSnapshot hw₁

/-- What a stream starts from is no newer snapshot than that on the shelf. -/
theorem finds_readStream (hw : R.Inv w) : R.Finds c
    (fun w stream => stream.snapshotVersion ≤ w.reflected (s.keyOf id)) (s.readStream id) w := by
  refine (finds_startingSnapshot hw).bind hw fun w₁ x hw₁ hle => ?_
  have hstable := stable_reflected (ε := ε) c.number (s.keyOf id) ((x.map (·.sequence)).getD 0)
  refine (finds_checkLive hstable hw₁ hle).bind hw₁ fun w₂ _ hw₂ hle => ?_
  dsimp only
  split
  · exact finds_failed _
  · refine (finds_of_passive (p := StoreCall.storage (.load _ _)) hstable
      (Asks.bind ⟨trivial, fun _ => trivial⟩ fun a => .ofExcept a) hw₂ hle).bind hw₂
        fun w₃ committed hw₃ hle => ?_
    refine (finds_of_passive hstable (.ofExcept _) hw₃ hle).bind hw₃ fun w₄ forms hw₄ hle => ?_
    exact finds_done hle

theorem finds_rebuild {stream : LoadedStream ε} (hw : R.Inv w)
    (hle : stream.snapshotVersion ≤ w.reflected key) : R.Finds c
    (fun w _ => stream.snapshotVersion ≤ w.reflected key) (s.rebuild id stream) w :=
  finds_of_passive (stable_reflected _ _ _) (AggregateStore.asks_rebuild (fun _ => trivial) id _)
    hw hle

/-- What a cache holds starts from no newer snapshot than that on the shelf. -/
theorem finds_cachedStream : R.Finds c
    (fun w found => ∀ stream, found = some stream →
      stream.snapshotVersion ≤ w.reflected (s.keyOf id)) (s.cachedStream id) w := by
  unfold AggregateStore.cachedStream
  split
  · intro w₁ _ hw₁
    refine ⟨trivial, fun a w₂ ha => finds_done ?_⟩
    rintro stream rfl
    obtain ⟨now, hget, rfl⟩ := ha
    obtain ⟨e, he, rfl⟩ := StreamCache.entry?_of_get hget.symm
    exact hw₁.cached _ _ e he
  · refine finds_done ?_
    rintro stream ⟨⟩

theorem finds_readRoot (hw : R.Inv w) : R.Finds c
    (fun w r => r.2.snapshotVersion ≤ w.reflected (s.keyOf id)) (s.readRoot id) w := by
  unfold AggregateStore.readRoot
  split
  · refine (finds_of_passive (p := StoreCall.generation _) (stable_true _)
      ⟨trivial, fun _ => trivial⟩ hw trivial).bind hw fun w₁ generation hw₁ _ => ?_
    refine (finds_readStream hw₁).bind hw₁ fun w₂ stream hw₂ hle => ?_
    refine (finds_rebuild hw₂ hle).bind hw₂ fun w₃ root hw₃ hle => ?_
    -- the stream that is kept is the one that was found
    intro w₄ hr₄ _
    have hkept : R.MayAsk c w₄ (.keep (s.keyOf id) generation stream) :=
      Nat.le_trans hle (hr₄.reflected_le _)
    exact ⟨hkept, fun a w₅ ha =>
      finds_done (Nat.le_trans hkept (reflected_le_of_answers hkept ha _))⟩
  · refine (finds_readStream hw).bind hw fun w₁ stream hw₁ hle => ?_
    refine (finds_rebuild hw₁ hle).bind hw₁ fun w₂ root hw₂ hle => ?_
    exact finds_done hle

/-- **A stream that was loaded starts from no newer snapshot than that on the shelf.** -/
theorem finds_loadRoot (hw : R.Inv w) : R.Finds c
    (fun w r => r.2.snapshotVersion ≤ w.reflected (s.keyOf id)) (s.loadRoot id) w := by
  unfold AggregateStore.loadRoot
  refine finds_cachedStream.bind hw fun w₁ found hw₁ hle => ?_
  cases found with
  | none => exact finds_readRoot hw₁
  | some stream =>
    refine (finds_rebuild hw₁ (hle stream rfl)).bind hw₁ fun w₂ root hw₂ hle => ?_
    exact finds_done hle

/-! ### Updating -/

/-- What a call has committed is near the snapshot of the aggregate. -/
def Near (R : Regime σ ε) (i : Nat) (w : Commons ε) : Prop :=
  ∀ n, (i, .commit R.key n) ∈ w.depot.deeds → n < w.reflected R.key + R.every

/-- The same of what it had committed before a batch that ends with the number `v`. -/
def NearBefore (R : Regime σ ε) (c : Caller σ ε) (v : Nat) (w : Commons ε) : Prop :=
  ∀ n, (c.number, .commit R.key n) ∈ w.depot.deeds →
    n < w.reflected R.key + R.every ∨ (c.key = R.key ∧ n = v)

theorem stable_near (R : Regime σ ε) (i : Nat) : Stable i (R.Near i) :=
  fun _ _ hg h n hn => Nat.lt_of_lt_of_le (h n ((hg.mem_iff _ n).1 hn))
    (Nat.add_le_add_right (hg.reflected_le _) _)

theorem stable_nearBefore (R : Regime σ ε) (c : Caller σ ε) (v : Nat) :
    Stable c.number (R.NearBefore c v) :=
  fun _ _ hg h n hn => (h n ((hg.mem_iff _ n).1 hn)).imp_left fun hlt =>
    Nat.lt_of_lt_of_le hlt (Nat.add_le_add_right (hg.reflected_le _) _)

theorem stable_mem (i : Nat) (key : StreamKey) (n : Nat) :
    Stable i fun w : Commons ε => (i, .commit key n) ∈ w.depot.deeds :=
  fun _ _ hg => (hg.mem_iff key n).2

theorem Stable.and {J J' : Commons ε → Prop} (h : Stable i J) (h' : Stable i J') :
    Stable i fun w => J w ∧ J' w :=
  fun w w' hg hJ => ⟨h w w' hg hJ.1, h' w w' hg hJ.2⟩

/-- A commit leaves what was committed before near the snapshot. -/
theorem keeps_commit {b : Uuid} {ps : List PendingEvent} (hc : c.Changes key)
    (hnear : R.Near c.number w) : Keeps (R.discipline c)
      (fun w r => (∀ e, r = .error e → R.Near c.number w) ∧ ∀ stored, r = .ok stored →
        ∃ last, stored.getLast? = some last ∧ R.NearBefore c last.sequence w ∧
          (c.number, .commit key last.sequence) ∈ w.depot.deeds)
      (StoreCall.storage (.commit key b ps) : StoreCall σ ε (List CommittedEvent)) w := by
  intro w₁ hr hw₁
  have hmay : R.MayAsk c w₁ (.storage (.commit key b ps)) := hc
  have hnear₁ := stable_near R c.number _ _ hr.grows hnear
  refine ⟨hmay, fun a w₂ ha => ?_⟩
  have hgrown := reflected_le_of_answers hmay ha R.key
  cases a with
  | error e =>
    refine ⟨fun _ _ n hn => ?_, by rintro _ ⟨⟩⟩
    rw [ha.deeds_of_refused] at hn
    exact Nat.lt_of_lt_of_le (hnear₁ n hn) (Nat.add_le_add_right hgrown _)
  | ok stored =>
    refine ⟨by rintro _ ⟨⟩, ?_⟩
    rintro _ ⟨⟩
    obtain ⟨last, hlast, hdeeds⟩ := ha.deeds_of_accepted hw₁.diary
    refine ⟨last, hlast, fun n hn => ?_, hdeeds ▸ List.mem_cons_self⟩
    rw [hdeeds, List.mem_cons] at hn
    rcases hn with heq | hold
    · obtain ⟨hkey, rfl⟩ := Deed.commit.inj (Prod.mk.inj heq).2
      exact .inr ⟨hc.1.trans hkey.symm, rfl⟩
    · exact .inl (Nat.lt_of_lt_of_le (hnear₁ n hold) (Nat.add_le_add_right hgrown _))

/-- A snapshot that is brought is there or a newer one is, for what comes after it. -/
theorem keeps_storeSnapshot_bind {J : Commons ε → Prop} {x : Snapshot}
    {f : StorageRequest.Answer (.storeSnapshot x) → StoreCall σ ε β}
    {post : Commons ε → Except Error β → Prop} (hJ : Stable c.number J) (hJw : J w)
    (hmem : (c.number, .commit x.key x.sequence) ∈ w.depot.deeds)
    (hread : x.key = R.key → R.Readable x)
    (hf : ∀ w a, J w → x.sequence ≤ w.reflected x.key → Keeps (R.discipline c) post (f a) w) :
    Keeps (R.discipline c) post ((StoreCall.tryStorage (.storeSnapshot x)).bind f) w := by
  intro w₁ hr hw₁
  have hmay : R.MayAsk c w₁ (.storage (.storeSnapshot x)) := ⟨hr.deeds.mem hmem, hread⟩
  refine ⟨hmay, fun a w₂ ha => hf w₂ a ?_ ha.le_reflected⟩
  exact hJ _ _ (grows_of_answers hmay (by rintro _ _ _ ⟨⟩) ha) (hJ _ _ hr.grows hJw)

theorem NearBefore.near {v : Nat} (h : R.NearBefore c v w)
    (hv : c.key = R.key → v < w.reflected R.key + R.every) : R.Near c.number w := by
  intro n hn
  rcases h n hn with hlt | ⟨hkey, rfl⟩
  · exact hlt
  · exact hv hkey

/-- After a batch of the aggregate its update brings a snapshot, or the one on the shelf is near. -/
theorem keeps_offerSnapshot_of_eq {root : Root σ ε} {version last : Nat} (hadmits : R.Admits c)
    (hchanges : c.Changes R.key) (hroot : c.store.keyOf root.id = R.key)
    (hlast : last ≤ w.reflected R.key)
    (hmem : (c.number, .commit R.key version) ∈ w.depot.deeds) (hnear : R.NearBefore c version w) :
    Keeps (R.discipline c) (fun w _ => R.Near c.number w)
      (c.store.offerSnapshot root version last) w := by
  have hpos := R.every_pos
  obtain ⟨form, hform, hread⟩ := R.keepsStates root.state
  rw [← hadmits.codec hchanges] at hform
  rw [AggregateStore.offerSnapshot_of_every (hadmits.snapshots hchanges) hpos hform]
  split
  next hdue =>
    have hstable := (stable_nearBefore R c version).and (stable_mem c.number R.key version)
    refine keeps_ask_bind (q := .now) trivial hstable ⟨hnear, hmem⟩ fun w₁ now _ hboth => ?_
    refine keeps_storeSnapshot_bind (stable_nearBefore R c version) hboth.1
      (hroot ▸ hboth.2) (fun _ => hread) fun w₂ _ hbefore hstored => hbefore.near fun _ => ?_
    dsimp only at hstored
    rw [hroot] at hstored
    omega
  next hdue =>
    -- the snapshot that the update has seen is not newer than that on the shelf
    exact hnear.near fun _ => by omega

/-- After a batch of another aggregate nothing changes. -/
theorem keeps_offerSnapshot_of_ne {root : Root σ ε} {version last : Nat}
    (hroot : c.store.keyOf root.id = c.key) (hkey : c.key ≠ R.key) (hw : R.Inv w)
    (hmem : (c.number, .commit c.key version) ∈ w.depot.deeds) (hnear : R.Near c.number w) :
    Keeps (R.discipline c) (fun w _ => R.Near c.number w)
      (c.store.offerSnapshot root version last) w := by
  let P : StoreRequest σ ε → Prop := fun q => q.IsPassive ∨
    ∃ x, q = .storage (.storeSnapshot x) ∧ x.key = c.key ∧ x.sequence = version
  have hasks : Asks P (c.store.offerSnapshot root version last) :=
    AggregateStore.asks_offerSnapshot (.inl trivial) (.inl trivial)
      fun x hx hseq => .inr ⟨x, rfl, hx.trans hroot, hseq⟩
  have hstable := (stable_near R c.number).and (stable_mem c.number c.key version)
  refine Keeps.imp (fun _ _ _ h => h.1) hw (keeps_of_asks hstable ?_ ?_ hasks ⟨hnear, hmem⟩)
  · rintro w q hboth (hpassive | ⟨x, rfl, hx, rfl⟩)
    · exact mayAsk_of_isPassive hpassive
    · exact ⟨hx ▸ hboth.2, fun h => absurd (hx.symm.trans h) hkey⟩
  · rintro key b ps (hpassive | ⟨x, ⟨⟩, -⟩)
    exact hpassive

/-- **After a batch its update brings a snapshot, or the one on the shelf is near.** -/
theorem keeps_offerSnapshot {root : Root σ ε} {version last : Nat} (hadmits : R.Admits c)
    (hc : c.Changes c.key) (hroot : c.store.keyOf root.id = c.key) (hw : R.Inv w)
    (hlast : last ≤ w.reflected c.key)
    (hmem : (c.number, .commit c.key version) ∈ w.depot.deeds) (hnear : R.NearBefore c version w) :
    Keeps (R.discipline c) (fun w _ => R.Near c.number w)
      (c.store.offerSnapshot root version last) w := by
  by_cases hkey : c.key = R.key
  · rw [hkey] at hc hroot hlast hmem
    exact keeps_offerSnapshot_of_eq hadmits hc hroot hlast hmem hnear
  · exact keeps_offerSnapshot_of_ne hroot hkey hw hmem (hnear.near fun h => absurd h hkey)

theorem keeps_commitRoot {source : Option String} {stream : LoadedStream ε} {root : Root σ ε}
    (hadmits : R.Admits c) (hc : c.Changes c.key) (hid : root.id = c.id)
    (hlast : stream.snapshotVersion ≤ w.reflected c.key) (hnear : R.Near c.number w) :
    Keeps (R.discipline c) (fun w _ => R.Near c.number w)
      (c.store.commitRoot c.id source stream root) w := by
  have hroot : c.store.keyOf root.id = c.key := by rw [hid, Caller.key]
  have hseen := stable_reflected (ε := ε) c.number c.key stream.snapshotVersion
  have hstable := hseen.and (stable_near R c.number)
  unfold AggregateStore.commitRoot
  refine keeps_ask_bind (q := .freshId) trivial hstable ⟨hlast, hnear⟩ fun w₁ batchId hw₁ h₁ => ?_
  refine keeps_ask_bind (q := .now) trivial hstable h₁ fun w₂ now hw₂ h₂ => ?_
  refine Keeps.bind hw₂ (keeps_of_passive hstable
    (AggregateStore.asks_pendingEvents trivial _ _ _ _ _ _) h₂) (fun w₃ events hw₃ h₃ => ?_)
    fun _ _ _ h => h.2
  refine Keeps.bind hw₃ (keeps_of_looking hstable AggregateStore.asks_checkLive h₃)
    (fun w₄ _ hw₄ h₄ => ?_) fun _ _ _ h => h.2
  have hstored : Keeps (R.discipline c) _ (StoreCall.storage (.commit c.key batchId events)) w₄ :=
    keeps_commit hc h₄.2
  -- the snapshot that was seen is not newer than that on the shelf after the commit either
  have hcommit := Asks.keeps_and (D := R.discipline c) (P := fun _ => True)
    (fun hr => hseen _ _ hr.grows)
    (fun _ hq ha h => Nat.le_trans h (reflected_le_of_answers hq ha _)) (.of_forall (by simp) _)
    hstored h₄.1
  refine Keeps.bind hw₄ hcommit (fun w₅ stored hw₅ h₅ => ?_) fun _ e _ h => h.1.1 e rfl
  obtain ⟨⟨-, haccepted⟩, hle⟩ := h₅
  obtain ⟨last, hlast', hbefore, hmem⟩ := haccepted stored rfl
  have hbatch := hseen.and ((stable_nearBefore R c last.sequence).and
    (stable_mem c.number c.key last.sequence))
  refine Keeps.bind hw₅ (Ends.keeps_and (AggregateStore.ends_invalidate c.id)
    (keeps_of_passive hbatch (AggregateStore.asks_invalidate trivial) ⟨hle, hbefore, hmem⟩))
    (fun w₆ _ hw₆ h₆ => ?_) fun _ _ _ h => by cases h.2
  obtain ⟨⟨hle, hbefore, hmem⟩, -⟩ := h₆
  rw [hlast']
  refine Keeps.bind hw₆ (keeps_offerSnapshot hadmits hc hroot hw₆ hle hmem hbefore)
    (fun w₇ _ hw₇ h₇ => h₇) fun _ _ _ h => h

/-- A root that was loaded, with a stream that starts from no newer snapshot than that on the shelf.
-/
theorem keeps_loadRoot (hw : R.Inv w) (hnear : R.Near c.number w) : Keeps (R.discipline c)
    (fun w r => (∀ root stream, r = .ok (root, stream) → root.id = c.id ∧
      stream.snapshotVersion ≤ w.reflected c.key) ∧ R.Near c.number w)
    (c.store.loadRoot c.id) w := by
  have hnears := stable_near R c.number
  have hfinds := (AggregateStore.ends_loadRoot (s := c.store) c.id).keeps_and
    (finds_loadRoot (R := R) (c := c) hw)
  have hboth := (AggregateStore.asks_loadRoot (s := c.store) c.id).keeps_and
    (D := R.discipline c) (fun hr => hnears _ _ hr.grows)
    (fun hq hmay ha => hnears _ _ (grows_of_answers hmay (by rintro _ _ _ rfl; exact hq) ha))
    hfinds hnear
  refine hboth.imp (fun w r _ h => ⟨?_, h.2⟩) hw
  rintro root stream rfl
  exact ⟨(h.1.2 root stream rfl).id, h.1.1 _ rfl⟩

theorem keeps_attempt {source : Option String} (hadmits : R.Admits c) (hc : c.Changes c.key)
    (hw : R.Inv w) (hnear : R.Near c.number w) :
    Keeps (R.discipline c) (fun w _ => R.Near c.number w) (c.store.attempt c.id source) w := by
  unfold AggregateStore.attempt
  refine Keeps.bind hw (keeps_loadRoot hw hnear) ?_ fun _ _ _ h => h.2
  rintro w₁ ⟨root, stream⟩ hw₁ ⟨hloaded, hnear₁⟩
  obtain ⟨hid, hle⟩ := hloaded root stream rfl
  have hstable := (stable_reflected (ε := ε) c.number c.key stream.snapshotVersion).and
    (stable_near R c.number)
  refine Keeps.bind hw₁ (keeps_of_looking hstable (AggregateStore.asks_redelivered c.id stream source)
    ⟨hle, hnear₁⟩) ?_ fun _ _ _ h => h.2
  rintro w₂ found hw₂ ⟨hle₂, hnear₂⟩
  cases found with
  | some batch => exact hnear₂
  | none =>
    intro w₃ hr₃ hw₃
    refine ⟨trivial, ?_⟩
    rintro decision w₄ ⟨hdecide, rfl⟩
    obtain ⟨hle₄, hnear₄⟩ := hstable _ _ hr₃.grows ⟨hle₂, hnear₂⟩
    cases decision with
    | error e => exact hnear₄
    | ok decided =>
      change Keeps _ _ (if decided.uncommitted.isEmpty then _ else _) _
      split
      · exact hnear₄
      · exact keeps_commitRoot hadmits hc ((hadmits.sameId root decided hdecide).trans hid)
          hle₄ hnear₄

theorem keeps_attempts {source : Option String} {retries done : Nat} (hadmits : R.Admits c)
    (hc : c.Changes c.key) (hw : R.Inv w) (hnear : R.Near c.number w) :
    Keeps (R.discipline c) (fun w _ => R.Near c.number w)
      (c.store.attempts c.id source retries done) w := by
  have hnears := stable_near R c.number
  have hinvalidate : ∀ {w}, R.Near c.number w →
      Keeps (R.discipline c) (fun w _ => R.Near c.number w) (c.store.invalidate c.id) w :=
    keeps_of_passive hnears (AggregateStore.asks_invalidate trivial)
  induction retries generalizing done w with
  | zero =>
    unfold AggregateStore.attempts
    refine Keeps.outcome_bind hw (keeps_attempt hadmits hc hw hnear) fun w₁ r hw₁ hnear₁ => ?_
    cases r with
    | ok committed => exact hnear₁
    | error e =>
      dsimp only
      split
      · exact Keeps.bind hw₁ (hinvalidate hnear₁) (fun _ _ _ h => h) fun _ _ _ h => h
      · exact hnear₁
  | succ retries ih =>
    unfold AggregateStore.attempts
    refine Keeps.outcome_bind hw (keeps_attempt hadmits hc hw hnear) fun w₁ r hw₁ hnear₁ => ?_
    cases r with
    | ok committed => exact hnear₁
    | error e =>
      dsimp only
      split
      · refine Keeps.bind hw₁ (hinvalidate hnear₁) (fun w₂ _ hw₂ hnear₂ => ?_) fun _ _ _ h => h
        refine Keeps.bind hw₂ (keeps_of_passive hnears (AggregateStore.asks_pause trivial) hnear₂)
          (fun w₃ _ hw₃ hnear₃ => ih hw₃ hnear₃) fun _ _ _ h => h
      · exact hnear₁

/-- **What a call has committed at its end is near the snapshot**, if it begins now. -/
theorem keeps_program (hadmits : R.Admits c) (hw : R.Inv w)
    (hnew : ∀ n, (c.number, .commit R.key n) ∉ w.depot.deeds) :
    Keeps (R.discipline c) (fun w _ => R.Near c.number w) c.program w := by
  have hnear : R.Near c.number w := fun n hn => absurd hn (hnew n)
  unfold Caller.program
  split
  next htask =>
    have hload : Keeps (R.discipline c) (fun w _ => R.Near c.number w) (c.store.load c.id) w :=
      Keeps.bind hw (keeps_loadRoot hw hnear) (fun _ _ _ h => h.2) fun _ _ _ h => h.2
    exact Keeps.bind hw hload (fun _ _ _ h => h) fun _ _ _ h => h
  next source outcomes htask =>
    have hchanges : c.Changes c.key := ⟨rfl, source, outcomes, htask⟩
    exact Keeps.bind hw (keeps_attempts hadmits hchanges hw hnear) (fun _ _ _ h => h)
      fun _ _ _ h => h

end Regime

end EventLedger
