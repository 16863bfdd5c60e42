import EventLedger.Admin.Command
import EventLedger.Proofs.Snapshots.Newest
import EventLedger.Store
import Mathlib.Data.List.Pairwise

/-!
# A storage that stores and purges share

An update changes the storage by two requests, its batch and then a snapshot, and so does a purge,
which removes the events and then the snapshots.  Between the two requests of one call the others do
as they like.  What a snapshot on the shelf may still tell depends on the order of these deeds, so
the storage is kept together with a diary of them.

A snapshot is only ever brought by a call that has committed up to its number, and a batch is only
ever lost to a deletion that comes after it.  Both can be read off the diary, whatever the order.

## Main definitions

* `Deed`, `Depot` — what was done, and a storage with the diary of what was done by whom.
* `Depot.serve`, `Depot.Answers`, `Depot.Attends` — how the requests of a call are answered.
* `Depot.reply`, `Depot.attend` — the answers in the simplest way.
* `Depot.Standing`, `Depot.Swept` — a snapshot that was brought and not removed, and a call that has
  removed the snapshots after the events.
* `Depot.Overtaken w s` — a whole purge came between the commit and the bringing of a snapshot.
* `Depot.Inv` — what the diary accounts for.

## Main results

* `Depot.Inv.serve` — **every request keeps the diary in order**, if a snapshot is brought only by
  a call that has committed up to its number.
* `Depot.Inv.reaches_or_overtaken` — **the events that a snapshot was taken of are stored, or it was
  overtaken**, if every deletion of events was followed by one of snapshots.
-/

namespace EventLedger

variable {σ ε : Type}

/-- A request that has changed a storage. -/
inductive Deed
  /-- A batch was accepted whose last event has the number `last`. -/
  | commit (key : StreamKey) (last : Nat)
  /-- A snapshot was brought. -/
  | snapshot (s : Snapshot)
  /-- The events of an aggregate were removed. -/
  | deleteEvents (key : StreamKey)
  /-- The snapshots of an aggregate were removed. -/
  | deleteSnapshots (key : StreamKey)

/-- The deed that a request with its answer is; reading is none, nor is what fails. -/
def Deed.of? : (q : StorageRequest) → q.Answer → Option Deed
  | .commit key _ _, .ok stored => some (.commit key ((stored.getLast?.map (·.sequence)).getD 0))
  | .storeSnapshot s, .ok _ => some (.snapshot s)
  | .delete key, .ok _ => some (.deleteEvents key)
  | .deleteSnapshots key, .ok _ => some (.deleteSnapshots key)
  | _, _ => none

/-- Whether the snapshots of the aggregate were removed. -/
def Deed.removesSnapshots (key : StreamKey) : Deed → Bool
  | .deleteSnapshots key' => key' = key
  | _ => false

theorem Deed.eq_delete_of_of? {q : StorageRequest} {a : q.Answer} {key : StreamKey}
    (h : Deed.of? q a = some (.deleteEvents key)) : q = .delete key := by
  unfold Deed.of? at h
  split at h <;> cases h
  rfl

theorem Deed.exists_commit_of_of? {q : StorageRequest} {a : q.Answer} {key : StreamKey} {n : Nat}
    (h : Deed.of? q a = some (.commit key n)) : ∃ b ps, q = .commit key b ps := by
  unfold Deed.of? at h
  split at h <;> cases h
  exact ⟨_, _, rfl⟩

/-! ### How far a stream reaches -/

namespace EventLog

/-- Some event of the stream has the number `n` or a greater one. -/
def Reaches (l : EventLog) (key : StreamKey) (n : Nat) : Prop :=
  ∃ m e, n ≤ m ∧ l.event? key m = some e

variable {l : EventLog} {key : StreamKey} {n : Nat} {b : Uuid} {ps : List PendingEvent}
  {stored : List CommittedEvent}

theorem Reaches.commit (h : l.Reaches key n) (key' : StreamKey) (b : Uuid)
    (ps : List PendingEvent) : (l.commit key' b ps).2.Reaches key n := by
  obtain ⟨m, e, hle, he⟩ := h
  exact ⟨m, e, hle, event?_commit key' b ps he⟩

theorem Reaches.delete (h : l.Reaches key n) {key' : StreamKey} (hk : key' ≠ key) :
    (l.delete key').2.Reaches key n := by
  obtain ⟨m, e, hle, he⟩ := h
  exact ⟨m, e, hle, (event?_delete hk m).trans he⟩

/-- A stream reaches its last event. -/
theorem Reaches.exists_getLast? (h : l.Reaches key n) (hl : l.Coherent) :
    ∃ e, (l.stream key).values.getLast? = some e ∧ n ≤ e.sequence := by
  obtain ⟨m, e, hle, he⟩ := h
  obtain ⟨hall, hkey, rfl⟩ := hl.placed.1 he
  have hmem : e ∈ (l.stream key).values := hl.mem_stream.2 ⟨hall, hkey⟩
  have hne := List.ne_nil_of_mem hmem
  refine ⟨_, List.getLast?_eq_some_getLast hne, Nat.le_trans hle ?_⟩
  exact ((hl.ascending_stream key).imp Nat.le_of_lt).rel_getLast_of_rel_getLast_getLast hmem
    (Nat.le_refl _)

theorem StoredAs.exists_place (h : l.StoredAs key b ps stored) {e : CommittedEvent}
    (he : e ∈ stored) : ∃ n, l.event? key n = some e := by
  induction h with
  | nil => cases he
  | @cons p e' ps stored hplace _ ih =>
    rcases List.mem_cons.1 he with rfl | he
    · exact ⟨p.sequence, hplace.1⟩
    · exact ih he

/-- A batch that was accepted has stored events. -/
theorem Coherent.stored_ne_nil (h : l.Coherent) (hc : (l.commit key b ps).1 = .ok stored) :
    stored ≠ [] := by
  obtain ⟨-, hstored⟩ := MemoryStorage.storedAs_of_serve (m := ⟨l, .empty⟩) h hc
  rintro rfl
  exact ne_nil_of_commit hc (List.forall₂_nil_right_iff.1 hstored)

/-- A stream reaches the last event of a batch that was accepted. -/
theorem Coherent.reaches_of_commit (h : l.Coherent) (hc : (l.commit key b ps).1 = .ok stored) :
    (l.commit key b ps).2.Reaches key ((stored.getLast?.map (·.sequence)).getD 0) := by
  obtain ⟨-, hstored⟩ := MemoryStorage.storedAs_of_serve (m := ⟨l, .empty⟩) h hc
  have hne := h.stored_ne_nil hc
  obtain ⟨n, hn⟩ := hstored.exists_place (List.getLast_mem hne)
  obtain ⟨-, -, hseq⟩ := (h.commit key b ps).placed.1 hn
  rw [List.getLast?_eq_some_getLast hne]
  exact ⟨n, _, Nat.le_of_eq hseq, hn⟩

end EventLog

/-! ### The storage and its diary -/

/-- A storage with the diary of what was done. -/
structure Depot where
  /-- The storage. -/
  storage : MemoryStorage
  /-- Whether the client of a call has cancelled. -/
  fired : Nat → Bool
  /-- The deeds with the calls that did them, the newest first. -/
  deeds : List (Nat × Deed)

namespace Depot

/-- The storage before anything was done. -/
def start (l : EventLog) : Depot := ⟨⟨l, .empty⟩, fun _ => false, []⟩

/-- How the storage answers a request of a call. -/
def serve (w : Depot) (i : Nat) (q : StorageRequest) : q.Answer × Depot :=
  let r := w.storage.answer (w.fired i) q
  let deed := (Deed.of? q r.1).map fun d => (i, d)
  (r.1, { w with storage := r.2, deeds := deed.toList ++ w.deeds })

/-- The answers to a request of a store.  A decision is about the root that it was given; what is
not the storage, the codec, the caller or its token may answer as it likes. -/
def Answers (s : AggregateStore σ ε) (i : Nat) (w : Depot) :
    (q : StoreRequest σ ε) → q.Answer → Depot → Prop
  | .storage q, a, w' => w.serve i q = (a, w')
  | .readState state, a, w' => a = s.codec.readState state ∧ w' = w
  | .isCancelled, a, w' => a = w.fired i ∧ w' = w
  | .pause _, a, w' => (a = true → w.fired i = true) ∧ w' = w
  | .decide root, a, w' => (∀ decided, a = .ok decided → decided.id = root.id) ∧ w' = w
  | _, _, w' => w' = w

/-- The answers to a request of a maintenance command. -/
def Attends (i : Nat) (w : Depot) : (q : AdminRequest) → q.Answer → Depot → Prop
  | .storage q, a, w' => w.serve i q = (a, w')
  | .isCancelled, a, w' => a = w.fired i ∧ w' = w
  | _, _, w' => w' = w

/-- The answer to a request of a store in the simplest way: the cache is empty, time stands still,
and identifiers are counted. -/
def reply (s : AggregateStore σ ε) (decide : Root σ ε → Except Error (Root σ ε)) (i : Nat) :
    (q : StoreRequest σ ε) → Depot → q.Answer × Depot
  | .storage q, w => w.serve i q
  | .cached _, w => (none, w)
  | .generation _, w => ((0 : Nat), w)
  | .keep .., w => (false, w)
  | .invalidate _, w => ((), w)
  | .readState state, w => (s.codec.readState state, w)
  | .isCancelled, w => (w.fired i, w)
  | .pause _, w => (false, w)
  | .now, w => (⟨0, 0⟩, w)
  | .freshId, w => (.ofNat w.deeds.length, w)
  | .roll, w => (.zero false, w)
  | .decide root, w => (decide root, w)

/-- The answer to a request of a maintenance command in the simplest way. -/
def attend (i : Nat) : (q : AdminRequest) → Depot → q.Answer × Depot
  | .storage q, w => w.serve i q
  | .isCancelled, w => (w.fired i, w)
  | .write _, w => (.ok (), w)
  | .endLine, w => (.ok (), w)
  | .flush, w => (.ok (), w)

/-- A snapshot that was brought by a call that had committed up to its number, and whose aggregate
has lost no snapshots since. -/
def Standing (deeds : List (Nat × Deed)) (s : Snapshot) : Prop :=
  ∃ i newer older, deeds = newer ++ (i, .snapshot s) :: older ∧
    (i, .commit s.key s.sequence) ∈ older ∧ ∀ j, (j, .deleteSnapshots s.key) ∉ newer

/-- A whole purge came between a commit and the bringing of the snapshot that was taken of it. -/
def Overtaken (w : Depot) (s : Snapshot) : Prop :=
  ∃ i j, [(i, .snapshot s), (j, .deleteSnapshots s.key), (j, .deleteEvents s.key),
    (i, .commit s.key s.sequence)].Sublist w.deeds

/-- Every deletion of events by a call was followed by its deletion of the snapshots. -/
def Swept (w : Depot) (j : Nat) : Prop :=
  ∀ key newer older, w.deeds = newer ++ (j, .deleteEvents key) :: older →
    (j, .deleteSnapshots key) ∈ newer

/-- What the diary accounts for. -/
structure Inv (w : Depot) : Prop where
  coherent : w.storage.events.Coherent
  /-- What was committed is stored, or a deletion came after it. -/
  committed : ∀ i key n, (i, .commit key n) ∈ w.deeds → w.storage.events.Reaches key n ∨
    ∃ j, [(j, .deleteEvents key), (i, .commit key n)].Sublist w.deeds
  /-- What is on the shelf was brought and not removed. -/
  shelved : ∀ key s, w.storage.shelf.load key = some s → s.key = key ∧ Standing w.deeds s

variable {w w' : Depot} {s : AggregateStore σ ε} {i : Nat} {key : StreamKey}

theorem inv_start {l : EventLog} (hl : l.Coherent) : (start l).Inv where
  coherent := hl
  committed := by
    intro i key n h
    cases h
  shelved := by
    intro key s h
    cases h

/-! ### Answers -/

/-- A store may be answered in this way, if the decisions are about the roots that they are given. -/
theorem answers_reply (w : Depot) (s : AggregateStore σ ε)
    {decide : Root σ ε → Except Error (Root σ ε)}
    (hdecide : ∀ root decided, decide root = .ok decided → decided.id = root.id) (i : Nat)
    (q : StoreRequest σ ε) :
    w.Answers s i q (reply s decide i q w).1 (reply s decide i q w).2 := by
  cases q with
  | storage q => rfl
  | readState state => exact ⟨rfl, rfl⟩
  | isCancelled => exact ⟨rfl, rfl⟩
  | pause d => exact ⟨(by rintro ⟨⟩), rfl⟩
  | decide root => exact ⟨hdecide root, rfl⟩
  | _ => rfl

/-- A maintenance command may be answered in this way. -/
theorem attends_attend (w : Depot) (i : Nat) (q : AdminRequest) :
    w.Attends i q (attend i q w).1 (attend i q w).2 := by
  cases q with
  | isCancelled => exact ⟨rfl, rfl⟩
  | _ => rfl

/-- Only the storage is changed by what a store asks. -/
theorem Answers.eq_or_serve {q : StoreRequest σ ε} {a : q.Answer} (h : w.Answers s i q a w') :
    w' = w ∨ ∃ p, q = .storage p ∧ w' = (w.serve i p).2 := by
  cases q with
  | storage p => exact .inr ⟨p, rfl, (congrArg Prod.snd h).symm⟩
  | readState state => exact .inl h.2
  | isCancelled => exact .inl h.2
  | pause d => exact .inl h.2
  | decide root => exact .inl h.2
  | _ => exact .inl h

/-- Only the storage is changed by what a maintenance command asks. -/
theorem Attends.eq_or_serve {q : AdminRequest} {a : q.Answer} (h : w.Attends i q a w') :
    w' = w ∨ ∃ p, q = .storage p ∧ w' = (w.serve i p).2 := by
  cases q with
  | storage p => exact .inr ⟨p, rfl, (congrArg Prod.snd h).symm⟩
  | isCancelled => exact .inl h.2
  | _ => exact .inl h

theorem deeds_of_serve {q : StorageRequest} {a : q.Answer} (h : w.serve i q = (a, w')) :
    w'.deeds = ((Deed.of? q a).map fun d => (i, d)).toList ++ w.deeds := by
  obtain ⟨rfl, rfl⟩ := Prod.mk.inj h
  rfl

/-! ### Keeping the diary -/

/-- What a deed does to the storage, put down in the diary, keeps it in order. -/
theorem Inv.noted (h : w.Inv) {m : MemoryStorage} {d : Deed} (hcoherent : m.events.Coherent)
    (hplaces : ∀ key n, w.storage.events.Reaches key n → d ≠ .deleteEvents key →
      m.events.Reaches key n)
    (hcommit : ∀ key n, d = .commit key n → m.events.Reaches key n)
    (hshelf : ∀ key s, m.shelf.load key = some s →
      (w.storage.shelf.load key = some s ∧ d ≠ .deleteSnapshots key) ∨
        (s.key = key ∧ d = .snapshot s ∧ (i, .commit s.key s.sequence) ∈ w.deeds)) :
    Inv ⟨m, w.fired, (i, d) :: w.deeds⟩ where
  coherent := hcoherent
  committed := by
    intro j key n hmem
    rcases List.mem_cons.1 hmem with heq | hold
    · obtain ⟨-, rfl⟩ := Prod.mk.inj heq
      exact .inl (hcommit key n rfl)
    · rcases h.committed j key n hold with hreach | ⟨k, hsub⟩
      · by_cases hd : d = .deleteEvents key
        · subst hd
          exact .inr ⟨i, (List.singleton_sublist.2 hold).cons_cons _⟩
        · exact .inl (hplaces key n hreach hd)
      · exact .inr ⟨k, hsub.cons _⟩
  shelved := by
    intro key s hs
    rcases hshelf key s hs with ⟨hold, hd⟩ | ⟨hkey, rfl, hmem⟩
    · obtain ⟨rfl, j, newer, older, hsplit, hmem, hkept⟩ := h.shelved key s hold
      refine ⟨rfl, j, (i, d) :: newer, older, congrArg ((i, d) :: ·) hsplit, hmem, ?_⟩
      intro k hk
      rcases List.mem_cons.1 hk with heq | hk
      · exact hd (Prod.mk.inj heq).2.symm
      · exact hkept k hk
    · refine ⟨hkey, i, [], w.deeds, rfl, hmem, ?_⟩
      intro k hk
      cases hk

theorem Inv.of_storage (h : w.Inv) (hstorage : w'.storage = w.storage)
    (hdeeds : w'.deeds = w.deeds) : w'.Inv where
  coherent := hstorage ▸ h.coherent
  committed := by
    rw [hstorage, hdeeds]
    exact h.committed
  shelved := by
    rw [hstorage, hdeeds]
    exact h.shelved

/-- **Every request keeps the diary in order**, if a snapshot is brought only by a call that has
committed up to its number. -/
theorem Inv.serve (h : w.Inv) {q : StorageRequest}
    (hq : ∀ s, q = .storeSnapshot s → (i, .commit s.key s.sequence) ∈ w.deeds) :
    (w.serve i q).2.Inv := by
  unfold Depot.serve
  rcases w.storage.answer_cases (w.fired i) q with hanswer | hanswer <;> rw [hanswer]
  · exact h.of_storage rfl (by cases q <;> rfl)
  cases q with
  | load => exact h.of_storage rfl rfl
  | loadSnapshot => exact h.of_storage rfl rfl
  | page start size =>
    refine h.of_storage rfl ?_
    simp only [MemoryStorage.serve]
    cases w.storage.events.page start size <;> rfl
  | commit key b ps =>
    simp only [MemoryStorage.serve]
    cases hc : (w.storage.events.commit key b ps).1 with
    | error e =>
      refine h.of_storage ?_ rfl
      simp only [EventLog.commit_error hc]
    | ok stored =>
      refine h.noted (h.coherent.commit key b ps) (fun _ _ hreach _ => hreach.commit key b ps) ?_
        fun key s hs => .inl ⟨hs, fun hd => by cases hd⟩
      intro key' n heq
      obtain ⟨rfl, rfl⟩ := Deed.commit.inj heq
      exact h.coherent.reaches_of_commit hc
  | delete key =>
    refine h.noted (h.coherent.delete key) ?_ (fun _ _ heq => by cases heq)
      fun key s hs => .inl ⟨hs, fun hd => by cases hd⟩
    intro key' n hreach hne
    exact hreach.delete fun hk => hne (hk ▸ rfl)
  | storeSnapshot s =>
    refine h.noted h.coherent (fun _ _ hreach _ => hreach) (fun _ _ heq => by cases heq) ?_
    intro key s' hs'
    rcases w.storage.shelf.load_store_cases s key with hkept | ⟨hkey, hnew⟩
    · exact .inl ⟨hkept ▸ hs', fun hd => by cases hd⟩
    · obtain rfl : s = s' := Option.some.inj (hnew.symm.trans hs')
      exact .inr ⟨hkey, rfl, hq s rfl⟩
  | deleteSnapshots key =>
    refine h.noted h.coherent (fun _ _ hreach _ => hreach) (fun _ _ heq => by cases heq) ?_
    intro key' s hs
    change (w.storage.shelf.delete key).load key' = some s at hs
    rw [SnapshotShelf.load_delete, Option.ite_none_left_eq_some] at hs
    exact .inl ⟨hs.2, fun hd => hs.1 (Deed.deleteSnapshots.inj hd)⟩

/-! ### What is on the shelf -/

/-- What begins with an element that the first list lacks is part of the second. -/
theorem sublist_of_cons_sublist_append {α : Type} {x : α} {l newer older : List α}
    (h : (x :: l).Sublist (newer ++ older)) (hx : x ∉ newer) : (x :: l).Sublist older := by
  obtain ⟨l₁, l₂, heq, hnewer, holder⟩ := List.sublist_append_iff.1 h
  cases l₁ with
  | nil => rwa [heq]
  | cons y l₁ =>
    obtain ⟨rfl, -⟩ := List.cons.inj heq
    exact absurd (hnewer.subset List.mem_cons_self) hx

/-- **The events that a snapshot was taken of are stored, or it was overtaken**, if every deletion
of events was followed by one of snapshots. -/
theorem Inv.reaches_or_overtaken (h : w.Inv)
    (hswept : ∀ j key, (j, .deleteEvents key) ∈ w.deeds → w.Swept j) {x : Snapshot}
    (hx : w.storage.shelf.load key = some x) :
    w.storage.events.Reaches key x.sequence ∨ w.Overtaken x := by
  obtain ⟨rfl, i, newer, older, hsplit, hcommit, hkept⟩ := h.shelved key x hx
  have hmem : (i, .commit x.key x.sequence) ∈ w.deeds := by
    rw [hsplit]
    exact List.mem_append_right newer (List.mem_cons_of_mem _ hcommit)
  rcases h.committed i x.key x.sequence hmem with hreach | ⟨j, hsub⟩
  · exact .inl hreach
  -- the events were deleted after the commit, and the snapshots after the events
  obtain ⟨r₁, r₂, hsplit', hdelete, hcommit'⟩ := List.cons_sublist_iff.1 hsub
  obtain ⟨r₀, r₁, rfl⟩ := List.append_of_mem hdelete
  rw [List.append_assoc, List.cons_append] at hsplit'
  have hdeleteSnapshots : (j, .deleteSnapshots x.key) ∈ r₀ := by
    refine hswept j x.key ?_ x.key r₀ _ hsplit'
    rw [hsplit']
    exact List.mem_append_right r₀ List.mem_cons_self
  have hpurge : [(j, .deleteSnapshots x.key), (j, .deleteEvents x.key),
      (i, .commit x.key x.sequence)].Sublist w.deeds := by
    rw [hsplit']
    exact (List.singleton_sublist.2 hdeleteSnapshots).append
      ((hcommit'.trans (List.sublist_append_right r₁ r₂)).cons_cons _)
  -- but no snapshots were deleted after this one was brought
  have holder := hpurge
  rw [hsplit] at holder
  have hafter := sublist_of_cons_sublist_append holder (hkept j)
  rcases List.sublist_cons_iff.1 hafter with hafter | ⟨r, heq, -⟩
  · refine .inr ⟨i, j, ?_⟩
    rw [hsplit]
    exact (hafter.cons_cons _).trans (List.sublist_append_right newer _)
  · cases heq

end Depot

end EventLedger
