import EventLedger.Proofs.Reading

/-!
# What the stores of one kind of aggregate have in common

Stores may differ in their caches, snapshots, providers and bounds on passes, but those of one kind
of aggregate read and write the same forms.  Because the bound on passes decides only whether an
event is read, all of them that can read a list of events agree on what it says.

## Main definitions

* `Setting` — the kind of aggregate, its stored forms with their laws, and what is stored at first.
* `Setting.Fits` — a store is one of this setting.
* `Setting.Reads`, `Setting.Shows` — stored events, and the state after them, as some store reads
  them.
* `Setting.Sound`, `Setting.Genuine` — a snapshot and a loaded stream that tell the truth about the
  stored events.

## Main results

* `Setting.Shows.unique` — **all stores that can read the events agree on the state.**
* `Setting.Shows.append` — the state after further events.
* `Setting.reads_of_written` — emitted events are read as themselves.
* `Setting.Genuine.shows` — replaying a genuine stream yields the state after all of its events.
-/

namespace EventLedger

variable {σ ε : Type}

/-- What the stores of one kind of aggregate have in common, and what they start from. -/
structure Setting (σ ε : Type) where
  /-- The kind of aggregate. -/
  aggregate : Aggregate σ ε
  /-- The stored forms. -/
  codec : Codec σ ε
  /-- The upgraders of stored events. -/
  upgraders : List (Upgrader ε)
  /-- The bounds on passes that stores may have. -/
  bounds : Nat → Prop
  /-- The events that are stored at first. -/
  log : EventLog
  /-- Whether others than stores may commit events. -/
  outsiders : Prop
  bounds_pos : ∀ n, bounds n → 0 < n
  /-- An event that can be emitted is read as it was written. -/
  read_written : ∀ e p, aggregate.handles (aggregate.typeOf e) = true →
    codec.writeEvent e = .ok p → codec.readEvent p (aggregate.typeOf e) = .ok e
  /-- No upgrader replaces the events that can be emitted. -/
  current : ∀ t, aggregate.handles t = true → ∀ u ∈ upgraders, u.input ≠ t
  /-- A state is read as it was written. -/
  readState_written : ∀ s j, codec.writeState s = .ok j → codec.readState j = .ok s

namespace Setting

variable (T : Setting σ ε)

/-- A store that reads with the given bound on passes. -/
def reader (n : Nat) : AggregateStore σ ε :=
  { aggregate := T.aggregate, codec := T.codec, upgraders := ⟨T.upgraders, n⟩ }

/-- The store is one of this setting. -/
structure Fits (s : AggregateStore σ ε) : Prop where
  aggregate : s.aggregate = T.aggregate
  codec : s.codec = T.codec
  upgraders : s.upgraders.upgraders = T.upgraders
  bound : T.bounds s.upgraders.maxPasses

/-- Some store reads the events as `xs`. -/
def Reads (id : AggregateId) (es : List CommittedEvent) (xs : List ε) : Prop :=
  ∃ n, T.bounds n ∧ (T.reader n).currentForms id es = .ok xs

/-- Some store finds the state `st` after the events. -/
def Shows (id : AggregateId) (es : List CommittedEvent) (st : σ) : Prop :=
  ∃ xs, T.Reads id es xs ∧ T.aggregate.replay T.aggregate.initial xs = .ok st

/-- A store with bound `n` reads whatever any store reads. -/
def Thorough (n : Nat) : Prop :=
  ∀ m, T.bounds m → ∀ id e xs, (T.reader m).currentForm id e = .ok xs →
    (T.reader n).currentForm id e = .ok xs

/-- A store with bound `n` fails on the events; if all bounds are the same, it fails with `e`. -/
def FailsAs (n : Nat) (id : AggregateId) (es : List CommittedEvent) (e : Error) : Prop :=
  ∃ e', (T.reader n).rebuilt id es = .error e' ∧ ((∀ m, T.bounds m → m = n) → e' = e)

/-- The event `x` is stored under this type with this payload. -/
def Writes (x : ε) (type : EventType) (payload : Json) : Prop :=
  type = T.aggregate.typeOf x ∧ T.codec.writeEvent x = .ok payload

/-- The snapshot holds the state after the first of the stored events. -/
def Sound (id : AggregateId) (es : List CommittedEvent) (s : Snapshot) : Prop :=
  s.sequence ≤ es.length ∧
    ∃ st, T.codec.readState s.state = .ok st ∧ T.Shows id (es.take s.sequence) st

/-- The loaded stream holds stored events, from a sound snapshot or from the first event on. -/
structure Genuine (id : AggregateId) (es : List CommittedEvent) (l : LoadedStream ε) : Prop where
  start_le : l.snapshotVersion ≤ l.version
  version_le : l.version ≤ es.length
  snapshot : ∀ s, l.snapshot = some s → T.Sound id es s
  committed : l.committed = (es.take l.version).drop l.snapshotVersion
  reads : T.Reads id l.committed l.upgraded

variable {T} {id : AggregateId} {es fs : List CommittedEvent} {xs ys : List ε} {st st' : σ}

/-! ### Stores of a setting -/

theorem Fits.keyOf {s : AggregateStore σ ε} (h : T.Fits s) (id : AggregateId) :
    s.keyOf id = ⟨T.aggregate.name, id⟩ := by
  rw [AggregateStore.keyOf, h.aggregate]

theorem Fits.currentForms {s : AggregateStore σ ε} (h : T.Fits s) (id : AggregateId)
    (es : List CommittedEvent) :
    s.currentForms id es = (T.reader s.upgraders.maxPasses).currentForms id es := by
  have hforms : s.currentForm id = (T.reader s.upgraders.maxPasses).currentForm id := by
    funext e
    unfold AggregateStore.currentForm reader
    rw [h.codec, h.aggregate, ← h.upgraders]
  induction es with
  | nil => rfl
  | cons e es ih =>
    rw [AggregateStore.currentForms_cons, AggregateStore.currentForms_cons, hforms, ih]

/-! ### Bounds on passes -/

theorem currentForm_mono {n m : Nat} (hle : n ≤ m) {e : CommittedEvent}
    (h : (T.reader n).currentForm id e = .ok xs) : (T.reader m).currentForm id e = .ok xs := by
  unfold AggregateStore.currentForm reader at h ⊢
  simp only at h ⊢
  cases hread : T.codec.readEvent e.payload e.type with
  | error reason => rw [hread] at h; cases h
  | ok x =>
    rw [hread] at h
    exact UpgraderChain.upgrade_mono hle h

/-- A store that reads each event as another one does reads all of them as that one does. -/
theorem currentForms_of_forall {n m : Nat}
    (hone : ∀ e xs, (T.reader n).currentForm id e = .ok xs →
      (T.reader m).currentForm id e = .ok xs) :
    ∀ {es : List CommittedEvent} {xs : List ε}, (T.reader n).currentForms id es = .ok xs →
      (T.reader m).currentForms id es = .ok xs
  | [], _, h => h
  | e :: es, xs, h => by
    rw [AggregateStore.currentForms_cons] at h ⊢
    cases he : (T.reader n).currentForm id e with
    | error => rw [he] at h; cases h
    | ok ys =>
      cases hes : (T.reader n).currentForms id es with
      | error => rw [he, hes] at h; cases h
      | ok zs =>
        rw [he, hes] at h
        rw [hone e ys he, currentForms_of_forall hone hes]
        exact h

theorem currentForms_mono {n m : Nat} (hle : n ≤ m) (h : (T.reader n).currentForms id es = .ok xs) :
    (T.reader m).currentForms id es = .ok xs :=
  currentForms_of_forall (fun _ _ => currentForm_mono hle) h

theorem Thorough.currentForms {n : Nat} (hn : T.Thorough n) (h : T.Reads id es xs) :
    (T.reader n).currentForms id es = .ok xs := by
  obtain ⟨m, hm, h⟩ := h
  exact currentForms_of_forall (hn m hm id) h

/-- A store with the greatest bound reads whatever any store reads. -/
theorem thorough_of_le {n : Nat} (hn : ∀ m, T.bounds m → m ≤ n) : T.Thorough n :=
  fun m hm _ _ _ h => currentForm_mono (hn m hm) h

/-! ### What the events say -/

theorem Reads.nil {n : Nat} (hn : T.bounds n) : T.Reads id [] [] := ⟨n, hn, rfl⟩

/-- Two readings are the same, and one store can make both. -/
theorem Reads.join (h : T.Reads id es xs) (h' : T.Reads id fs ys) :
    ∃ n, T.bounds n ∧ (T.reader n).currentForms id es = .ok xs ∧
      (T.reader n).currentForms id fs = .ok ys := by
  obtain ⟨n, hn, h⟩ := h
  obtain ⟨m, hm, h'⟩ := h'
  rcases Nat.le_total n m with hle | hle
  · exact ⟨m, hm, currentForms_mono hle h, h'⟩
  · exact ⟨n, hn, h, currentForms_mono hle h'⟩

theorem Reads.unique (h : T.Reads id es xs) (h' : T.Reads id es ys) : xs = ys := by
  obtain ⟨n, -, h, h'⟩ := h.join h'
  simpa using h.symm.trans h'

theorem Reads.append (h : T.Reads id es xs) (h' : T.Reads id fs ys) :
    T.Reads id (es ++ fs) (xs ++ ys) := by
  obtain ⟨n, hn, h, h'⟩ := h.join h'
  exact ⟨n, hn, AggregateStore.currentForms_append_eq_ok.2 ⟨xs, ys, h, h', rfl⟩⟩

/-- **All stores that can read the events agree on the state.** -/
theorem Shows.unique (h : T.Shows id es st) (h' : T.Shows id es st') : st = st' := by
  obtain ⟨xs, hr, hst⟩ := h
  obtain ⟨ys, hr', hst'⟩ := h'
  obtain rfl := hr.unique hr'
  simpa using hst.symm.trans hst'

theorem Shows.nil {n : Nat} (hn : T.bounds n) : T.Shows id [] T.aggregate.initial :=
  ⟨[], .nil hn, rfl⟩

/-- **The state after further events.** -/
theorem Shows.append (h : T.Shows id es st) (h' : T.Reads id fs ys)
    (hst : T.aggregate.replay st ys = .ok st') : T.Shows id (es ++ fs) st' := by
  obtain ⟨xs, hr, hxs⟩ := h
  exact ⟨xs ++ ys, hr.append h', by rw [Aggregate.replay_append _ hxs, hst]⟩

/-- A thorough store rebuilds what any store shows. -/
theorem Thorough.rebuilt {n : Nat} (hn : T.Thorough n) (h : T.Shows id es st) :
    (T.reader n).rebuilt id es = .ok ⟨id, st, (es.getLast?.map (·.sequence)).getD 0, []⟩ := by
  obtain ⟨xs, hr, hst⟩ := h
  exact AggregateStore.rebuilt_eq_ok.2 ⟨xs, st, hn.currentForms hr, hst, rfl⟩

/-- Emitted events are read as themselves. -/
theorem reads_of_written {n : Nat} (hn : T.bounds n) {cs : List CommittedEvent}
    (hall : ∀ x ∈ xs, T.aggregate.handles (T.aggregate.typeOf x) = true)
    (h : List.Forall₂ (fun x c => T.Writes x c.type c.payload) xs cs) : T.Reads id cs xs := by
  refine ⟨n, hn, ?_⟩
  induction h with
  | nil => rfl
  | @cons x c xs cs hx _ ih =>
    have hhandled := hall x (by simp)
    have hform : (T.reader n).currentForm id c = .ok [x] := by
      unfold AggregateStore.currentForm reader
      simp only
      rw [hx.1, T.read_written x c.payload hhandled hx.2]
      exact UpgraderChain.upgrade_of_forall_ne (T.bounds_pos n hn) (T.current _ hhandled)
    rw [AggregateStore.currentForms_cons, hform, ih fun x' hx' => hall x' (by simp [hx'])]
    rfl

/-! ### Failures -/

/-- A failure to read further events is the failure to read all of them. -/
theorem FailsAs.of_currentForms {n : Nat} {e : Error} (h : T.Shows id es st)
    (he : (T.reader n).currentForms id fs = .error e) : T.FailsAs n id (es ++ fs) e := by
  obtain ⟨xs, ⟨m, hm, hr⟩, -⟩ := h
  unfold FailsAs AggregateStore.rebuilt
  rw [AggregateStore.currentForms_append]
  cases hes : (T.reader n).currentForms id es with
  | error e' =>
    refine ⟨e', rfl, ?_⟩
    intro huniform
    -- with one bound only, the events that were read before are read again
    rw [huniform m hm, hes] at hr
    cases hr
  | ok zs => exact ⟨e, by rw [he]; rfl, fun _ => rfl⟩

/-- A failure to replay further events is the failure to replay all of them. -/
theorem FailsAs.of_replay {n : Nat} {e : Error} (hn : T.bounds n) (h : T.Shows id es st)
    (hfs : (T.reader n).currentForms id fs = .ok ys) (he : T.aggregate.replay st ys = .error e) :
    T.FailsAs n id (es ++ fs) e := by
  obtain ⟨xs, ⟨m, hm, hr⟩, hst⟩ := h
  unfold FailsAs AggregateStore.rebuilt
  rw [AggregateStore.currentForms_append]
  cases hes : (T.reader n).currentForms id es with
  | error e' =>
    refine ⟨e', rfl, ?_⟩
    intro huniform
    rw [huniform m hm, hes] at hr
    cases hr
  | ok zs =>
    obtain rfl : zs = xs := Reads.unique ⟨n, hn, hes⟩ ⟨m, hm, hr⟩
    refine ⟨e, ?_, fun _ => rfl⟩
    simp only [hfs, bind, Except.bind, pure, Except.pure]
    rw [show (T.reader n).aggregate = T.aggregate from rfl, Aggregate.replay_append _ hst, he]

/-! ### Snapshots and loaded streams -/

/-- The first events stay the same when others are stored after them. -/
theorem take_eq_take {n : Nat} (h : es <+: fs) (hn : n ≤ es.length) :
    fs.take n = es.take n := by
  obtain ⟨rest, rfl⟩ := h
  exact List.take_append_of_le_length hn

theorem Sound.mono {s : Snapshot} (h : T.Sound id es s) (hle : es <+: fs) : T.Sound id fs s := by
  obtain ⟨hs, hst⟩ := h
  refine ⟨Nat.le_trans hs hle.length_le, ?_⟩
  rwa [take_eq_take hle hs]

theorem Genuine.mono {l : LoadedStream ε} (h : T.Genuine id es l) (hle : es <+: fs) :
    T.Genuine id fs l where
  start_le := h.start_le
  version_le := Nat.le_trans h.version_le hle.length_le
  snapshot s hs := (h.snapshot s hs).mono hle
  committed := by rw [take_eq_take hle h.version_le]; exact h.committed
  reads := h.reads

/-- The state that replaying a genuine stream starts from. -/
def StartsAt (T : Setting σ ε) (l : LoadedStream ε) (st : σ) : Prop :=
  match l.snapshot with
  | none => st = T.aggregate.initial
  | some s => T.codec.readState s.state = .ok st

theorem StartsAt.shows {l : LoadedStream ε} (h : T.StartsAt l st) (hl : T.Genuine id es l) :
    T.Shows id (es.take l.snapshotVersion) st := by
  unfold StartsAt at h
  unfold LoadedStream.snapshotVersion
  split at h
  next hnone =>
    obtain ⟨n, hn, -⟩ := hl.reads
    rw [hnone, h]
    exact .nil hn
  next s hsome =>
    obtain ⟨-, st', hread, hshows⟩ := hl.snapshot s hsome
    obtain rfl : st = st' := by simpa using h.symm.trans hread
    rw [hsome]
    exact hshows

/-- The events of a genuine stream and those hidden by its snapshot are all events up to its
version. -/
theorem Genuine.take_version {l : LoadedStream ε} (h : T.Genuine id es l) :
    es.take l.version = es.take l.snapshotVersion ++ l.committed := by
  have htake : (es.take l.version).take l.snapshotVersion = es.take l.snapshotVersion := by
    rw [List.take_take, Nat.min_eq_left h.start_le]
  rw [h.committed, ← htake, List.take_append_drop]

/-- **Replaying a genuine stream yields the state after all of its events.** -/
theorem Genuine.shows {l : LoadedStream ε} (h : T.Genuine id es l) (hst : T.StartsAt l st)
    (hreplay : T.aggregate.replay st l.upgraded = .ok st') :
    T.Shows id (es.take l.version) st' := by
  rw [h.take_version]
  exact (hst.shows h).append h.reads hreplay

/-- A genuine stream can be replayed if the events up to its version can. -/
theorem Genuine.replay_eq_ok {l : LoadedStream ε} (h : T.Genuine id es l) (hst : T.StartsAt l st)
    (hshows : T.Shows id (es.take l.version) st') : T.aggregate.replay st l.upgraded = .ok st' := by
  obtain ⟨xs, hr, hxs⟩ := hst.shows h
  obtain ⟨zs, hr', hzs⟩ := hshows
  rw [h.take_version] at hr'
  obtain rfl : zs = xs ++ l.upgraded := hr'.unique (hr.append h.reads)
  rwa [Aggregate.replay_append _ hxs] at hzs

end Setting

end EventLedger
