import EventLedger.Proofs.Snapshots.Commons

/-!
# Snapshots at intervals

All updates of one aggregate bring a snapshot as soon as the last one that they have seen is some
number of events behind.  Whatever order the requests come in, the snapshots on the shelf only ever
get newer, and what a cache holds starts from no newer one than that on the shelf.

## Main definitions

* `Regime` — the aggregate, the stored forms of its states and the interval.
* `Regime.Admits` — a call that goes by it.
* `Regime.Inv` — what holds of the storage and the caches at every moment.
* `Regime.MayAsk`, `Regime.discipline` — what such a call may ask, and how it behaves among others.
* `Regime.Stable` — what holds on as long as a call commits nothing.

## Main results

* `Regime.Inv.answers` — **every permitted request keeps the invariant.**
* `Regime.rely_of_answers` — what a call is permitted to do, the others may rely on.
* `Regime.keeps_of_asks` — a part of a call that commits nothing keeps what is stable.
-/

namespace EventLedger

open Call (Asks Keeps)

variable {σ ε α β : Type}

/-- The call changes the aggregate of the stream. -/
def Caller.Changes (c : Caller σ ε) (key : StreamKey) : Prop :=
  c.key = key ∧ ∃ source outcomes, c.task = .update source outcomes

/-- The requests that neither store, remove nor keep anything. -/
def StoreRequest.IsPassive : StoreRequest σ ε → Prop
  | .storage (.commit ..) => False
  | .storage (.delete _) => False
  | .storage (.storeSnapshot _) => False
  | .storage (.deleteSnapshots _) => False
  | .keep .. => False
  | _ => True

theorem StoreRequest.IsLooking.isPassive {q : StoreRequest σ ε} (h : q.IsLooking) :
    q.IsPassive := by
  cases q with
  | storage q =>
    cases q with
    | load => trivial
    | _ => exact h.elim
  | isCancelled => trivial
  | _ => exact h.elim

/-- An aggregate whose updates bring snapshots at intervals. -/
structure Regime (σ ε : Type) where
  /-- The stream of the aggregate. -/
  key : StreamKey
  /-- The stored forms. -/
  codec : Codec σ ε
  /-- How many events at least are between a snapshot and the next one. -/
  every : Nat
  every_pos : 1 ≤ every
  /-- Every state can be written, and what was written can be read. -/
  keepsStates : ∀ state, ∃ form, codec.writeState state = .ok form ∧
    ∃ state', codec.readState form = .ok state'

namespace Regime

/-- The call goes by the regime: a decision is about the aggregate that it was given, and if the call
changes the aggregate of the regime, its store brings snapshots at the intervals. -/
structure Admits (R : Regime σ ε) (c : Caller σ ε) : Prop where
  sameId : ∀ root root', c.mayDecide root (.ok root') → root'.id = root.id
  snapshots : c.Changes R.key → c.store.snapshots = some (.every R.every)
  codec : c.Changes R.key → c.store.codec = R.codec

/-- The snapshot can be read. -/
def Readable (R : Regime σ ε) (x : Snapshot) : Prop := ∃ state, R.codec.readState x.state = .ok state

/-- What holds at every moment. -/
structure Inv (R : Regime σ ε) (w : Commons ε) : Prop where
  diary : w.depot.Inv
  /-- No events were removed, -/
  kept : ∀ i key, (i, .deleteEvents key) ∉ w.depot.deeds
  /-- and each one that is stored was committed. -/
  accounted : ∀ e ∈ w.depot.storage.events.all,
    ∃ i n, (i, .commit e.key n) ∈ w.depot.deeds ∧ e.sequence ≤ n
  /-- A cached stream starts from no newer snapshot than that on the shelf. -/
  cached : ∀ k key e, StreamCache.entry? (w.caches k) key = some e →
    e.stream.snapshotVersion ≤ w.reflected key
  /-- The snapshot of the aggregate can be read. -/
  readable : ∀ x, w.depot.storage.shelf.load R.key = some x → R.Readable x

/-- What a call may ask: it changes its own aggregate only, the snapshots that it brings are of what
it has committed, it removes nothing, and the streams that it keeps start from no newer snapshot
than that on the shelf. -/
def MayAsk (R : Regime σ ε) (c : Caller σ ε) (w : Commons ε) : StoreRequest σ ε → Prop
  | .storage (.commit key ..) => c.Changes key
  | .storage (.storeSnapshot x) =>
    (c.number, .commit x.key x.sequence) ∈ w.depot.deeds ∧ (x.key = R.key → R.Readable x)
  | .storage (.delete _) => False
  | .storage (.deleteSnapshots _) => False
  | .keep key _ stream => stream.snapshotVersion ≤ w.reflected key
  | _ => True

variable {R : Regime σ ε} {c : Caller σ ε} {w w' w'' : Commons ε}

theorem inv_start (ttl : Nat → Duration) : R.Inv (.start ttl) where
  diary := Depot.inv_start EventLog.coherent_empty
  kept := by
    intro i key h
    cases h
  accounted := by
    intro e he
    cases he
  cached := by
    intro k key e he
    cases he
  readable := by
    intro x hx
    cases hx

/-- What the storage is permitted to do keeps the invariant. -/
theorem Inv.serve (h : R.Inv w) {p : StorageRequest} (hp : R.MayAsk c w (.storage p))
    (hdepot : w'.depot = (w.depot.serve c.number p).2) (hcaches : w'.caches = w.caches) :
    R.Inv w' := by
  have hdelete : ∀ key, p ≠ .delete key := by
    rintro key rfl
    exact hp
  have hremove : ∀ key, p ≠ .deleteSnapshots key := by
    rintro key rfl
    exact hp
  constructor
  · rw [hdepot]
    refine h.diary.serve ?_
    rintro x rfl
    exact hp.1
  · intro i key hmem
    rw [hdepot] at hmem
    rcases List.mem_append.1 hmem with hnew | hold
    · obtain ⟨d, hd, heq⟩ := Option.map_eq_some_iff.1 (Option.mem_toList.1 hnew)
      obtain ⟨-, rfl⟩ := Prod.mk.inj heq
      exact hdelete key (Deed.eq_delete_of_of? hd)
    · exact h.kept i key hold
  · intro e he
    rw [hdepot] at he ⊢
    rcases Depot.mem_all_serve h.diary.coherent he with hold | ⟨n, hmem, hle⟩
    · obtain ⟨i, n, hmem, hle⟩ := h.accounted e hold
      exact ⟨i, n, List.mem_append_right _ hmem, hle⟩
    · exact ⟨_, n, hmem, hle⟩
  · intro k key e he
    rw [hcaches] at he
    refine Nat.le_trans (h.cached k key e he) ?_
    rw [Commons.reflected, Commons.reflected, hdepot]
    exact Depot.reflected_le_serve hremove key
  · intro x hx
    rw [hdepot] at hx
    rcases Depot.shelf_serve (w := w.depot) (i := c.number) hremove with hsame | ⟨y, rfl, hstore⟩
    · exact h.readable x (hsame ▸ hx)
    · rw [hstore] at hx
      rcases w.depot.storage.shelf.load_store_cases y R.key with hold | ⟨hkey, hload⟩
      · exact h.readable x (hold ▸ hx)
      · rw [hload] at hx
        obtain rfl := Option.some.inj hx
        exact hp.2 hkey

/-- What the storage does not notice keeps the invariant, if no cache holds a stream that starts
from a newer snapshot. -/
theorem Inv.of_storage (h : R.Inv w) (hstorage : w'.depot.storage = w.depot.storage)
    (hdeeds : w'.depot.deeds = w.depot.deeds)
    (hcached : ∀ k key e, StreamCache.entry? (w'.caches k) key = some e →
      e.stream.snapshotVersion ≤ w.reflected key) : R.Inv w' where
  diary := h.diary.of_storage hstorage hdeeds
  kept := by
    rw [hdeeds]
    exact h.kept
  accounted := by
    rw [hstorage, hdeeds]
    exact h.accounted
  cached := by
    intro k key e he
    rw [Commons.reflected, hstorage]
    exact hcached k key e he
  readable := by
    rw [hstorage]
    exact h.readable

/-- **Every permitted request keeps the invariant.** -/
theorem Inv.answers (h : R.Inv w) {q : StoreRequest σ ε} {a : q.Answer} (hq : R.MayAsk c w q)
    (ha : w.Answers c q a w') : R.Inv w' := by
  rcases ha.cases with ⟨p, rfl, hdepot, hcaches⟩ | ⟨hdepot, hnew⟩
  · exact h.serve hq hdepot hcaches
  · refine h.of_storage (by rw [hdepot]) (by rw [hdepot]) fun k key e he => ?_
    rcases hnew k key e he with hold | ⟨g, rfl⟩
    · exact h.cached k key e hold
    · exact hq

/-! ### What a call can rely on -/

/-- From the one moment to the other, a call commits nothing, and no snapshot falls back. -/
structure Grows (i : Nat) (w w' : Commons ε) : Prop where
  mem_iff : ∀ key n, (i, .commit key n) ∈ w'.depot.deeds ↔ (i, .commit key n) ∈ w.depot.deeds
  reflected_le : ∀ key, w.reflected key ≤ w'.reflected key

/-- What the others may do. -/
structure Rely (i : Nat) (w w' : Commons ε) : Prop where
  deeds : Depot.Rely i w.depot w'.depot
  reflected_le : ∀ key, w.reflected key ≤ w'.reflected key

variable {i j : Nat}

theorem Rely.of_eq (i : Nat) (h : w'.depot = w.depot) : Rely i w w' where
  deeds := by
    rw [h]
    exact .refl i w.depot
  reflected_le key := by rw [Commons.reflected, Commons.reflected, h]

theorem Rely.trans (h : Rely i w w') (h' : Rely i w' w'') : Rely i w w'' where
  deeds := h.deeds.trans h'.deeds
  reflected_le key := Nat.le_trans (h.reflected_le key) (h'.reflected_le key)

theorem Rely.grows (h : Rely i w w') : Grows i w w' where
  mem_iff _ _ := ⟨h.deeds.of_mem, h.deeds.mem⟩
  reflected_le := h.reflected_le

/-- No snapshot falls back by what is permitted. -/
theorem reflected_le_of_answers {q : StoreRequest σ ε} {a : q.Answer} (hq : R.MayAsk c w q)
    (ha : w.Answers c q a w') (key : StreamKey) : w.reflected key ≤ w'.reflected key := by
  rw [Commons.reflected, Commons.reflected]
  rcases ha.cases with ⟨p, rfl, hdepot, -⟩ | ⟨hdepot, -⟩ <;> rw [hdepot]
  refine Depot.reflected_le_serve ?_ key
  rintro key' rfl
  exact hq

/-- What a call is permitted to do, the others may rely on. -/
theorem rely_of_answers {q : StoreRequest σ ε} {a : q.Answer} (hq : R.MayAsk c w q)
    (ha : w.Answers c q a w') (hne : c.number ≠ j) : Rely j w w' where
  deeds := by
    rcases ha.cases with ⟨p, rfl, hdepot, -⟩ | ⟨hdepot, -⟩ <;> rw [hdepot]
    · exact w.depot.rely_serve p hne
    · exact .refl j w.depot
  reflected_le := reflected_le_of_answers hq ha

/-- A commit that is put down was there before, or it is of the call, to its own aggregate. -/
theorem mem_commit_of_answers {q : StoreRequest σ ε} {a : q.Answer} {key : StreamKey} {n : Nat}
    (hq : R.MayAsk c w q) (ha : w.Answers c q a w') (hmem : (i, .commit key n) ∈ w'.depot.deeds) :
    (i, .commit key n) ∈ w.depot.deeds ∨ i = c.number ∧ c.Changes key := by
  rcases ha.cases with ⟨p, rfl, hdepot, -⟩ | ⟨hdepot, -⟩ <;> rw [hdepot] at hmem
  · refine (Depot.mem_commit_of_serve hmem).imp_right ?_
    rintro ⟨rfl, b, ps, rfl⟩
    exact ⟨rfl, hq⟩
  · exact .inl hmem

/-- What a call is permitted to do commits nothing, unless it is a commit. -/
theorem grows_of_answers {q : StoreRequest σ ε} {a : q.Answer} (hq : R.MayAsk c w q)
    (hcommit : ∀ key b ps, q ≠ .storage (.commit key b ps)) (ha : w.Answers c q a w') :
    Grows c.number w w' where
  mem_iff key n := by
    rcases ha.cases with ⟨p, rfl, hdepot, -⟩ | ⟨hdepot, -⟩ <;> rw [hdepot]
    refine ⟨fun hmem => (Depot.mem_commit_of_serve hmem).resolve_right ?_,
      List.mem_append_right _⟩
    rintro ⟨-, b, ps, rfl⟩
    exact hcommit key b ps rfl
  reflected_le := reflected_le_of_answers hq ha

/-- How a call that goes by the regime behaves among the others. -/
def discipline (R : Regime σ ε) (c : Caller σ ε) : Discipline (storeInterface σ ε) (Commons ε) where
  serves := Commons.Answers c
  inv := R.Inv
  rely := Rely c.number
  asks := R.MayAsk c
  rely_trans := Rely.trans
  keeps_inv hw hq ha := hw.answers hq ha

/-- What holds on, as long as a call commits nothing and no snapshot falls back. -/
def Stable (i : Nat) (J : Commons ε → Prop) : Prop := ∀ w w', Grows i w w' → J w → J w'

theorem stable_true (i : Nat) : Stable i fun _ : Commons ε => True := fun _ _ _ => id

theorem stable_reflected (i : Nat) (key : StreamKey) (n : Nat) :
    Stable i fun w : Commons ε => n ≤ w.reflected key :=
  fun _ _ hg h => Nat.le_trans h (hg.reflected_le key)

theorem mayAsk_of_isPassive {q : StoreRequest σ ε} (h : q.IsPassive) : R.MayAsk c w q := by
  cases q with
  | storage q =>
    cases q with
    | commit => exact h.elim
    | delete => exact h.elim
    | storeSnapshot => exact h.elim
    | deleteSnapshots => exact h.elim
    | _ => trivial
  | keep => exact h.elim
  | _ => trivial

/-- A part of a call that commits nothing keeps what is stable. -/
theorem keeps_of_asks {J : Commons ε → Prop} {P : StoreRequest σ ε → Prop} {p : StoreCall σ ε α}
    (hJ : Stable c.number J) (hP : ∀ w q, J w → P q → R.MayAsk c w q)
    (hcommit : ∀ key b ps, ¬P (.storage (.commit key b ps))) (hp : Asks P p) (hw : J w) :
    Keeps (R.discipline c) (fun w _ => J w) p w := by
  refine hp.keeps_of_stable (hP _ _) (fun hr => hJ _ _ hr.grows) ?_ hw
  intro w q a w' hq ha hw
  refine hJ _ _ (grows_of_answers (hP w q hw hq) ?_ ha) hw
  rintro key b ps rfl
  exact hcommit key b ps hq

/-- A part of a call that neither stores, removes nor keeps anything keeps what is stable. -/
theorem keeps_of_passive {J : Commons ε → Prop} {p : StoreCall σ ε α} (hJ : Stable c.number J)
    (hp : Asks StoreRequest.IsPassive p) (hw : J w) :
    Keeps (R.discipline c) (fun w _ => J w) p w :=
  keeps_of_asks hJ (fun _ _ _ => mayAsk_of_isPassive) (fun _ _ _ => id) hp hw

theorem keeps_of_looking {J : Commons ε → Prop} {p : StoreCall σ ε α} (hJ : Stable c.number J)
    (hp : Asks StoreRequest.IsLooking p) (hw : J w) :
    Keeps (R.discipline c) (fun w _ => J w) p w :=
  keeps_of_passive hJ (hp.imp fun _ => StoreRequest.IsLooking.isPassive) hw

/-- A request that neither stores, removes nor keeps anything, and what comes after it. -/
theorem keeps_ask_bind {J : Commons ε → Prop} {q : StoreRequest σ ε}
    {f : q.Answer → StoreCall σ ε β} {post : Commons ε → Except Error β → Prop} (hq : q.IsPassive)
    (hJ : Stable c.number J) (hJw : J w)
    (hf : ∀ w a, R.Inv w → J w → Keeps (R.discipline c) post (f a) w) :
    Keeps (R.discipline c) post ((StoreCall.ask q).bind f) w := by
  intro w₁ hr hw₁
  have hmay : R.MayAsk c w₁ q := mayAsk_of_isPassive hq
  refine ⟨hmay, fun a w₂ ha => hf w₂ a (hw₁.answers hmay ha) ?_⟩
  refine hJ _ _ (grows_of_answers hmay ?_ ha) (hJ _ _ hr.grows hJw)
  rintro key b ps rfl
  exact hq

end Regime

end EventLedger
