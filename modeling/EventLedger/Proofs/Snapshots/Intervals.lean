import EventLedger.Proofs.Orders.Payloads
import EventLedger.Proofs.Orders.Rules
import EventLedger.Proofs.Snapshots.Updates
import EventLedger.Proofs.Upkeep.Purges

/-!
# Snapshots bound what is replayed

Any number of loads and updates, each begun at any time, whose requests are answered one at a time
in any order.  Clients may cancel, caches are cleared, and the storage may fail on all but the
snapshots that are brought.  When every update of the aggregate has ended, the update that committed
its last event has left a snapshot on the shelf that is fewer events behind than the interval.  It
need not be its own: another one may have brought a newer snapshot meanwhile, or the one that it had
seen was new enough.

## Main definitions

* `Workshop` — calls as far as they have got, and what they share.
* `Regime.Step`, `Regime.Reachable`, `Regime.Quiet` — runs, and the moments at which every update of
  the aggregate has ended.
* `Regime.Bounded` — the snapshot is near the last event, and loads replay few events.
* `Regime.Good` — the invariant.

## Main results

* `Regime.Step.good`, `Regime.Reachable.good` — every reachable state is good.
* `Regime.bounded_of_quiet` — **when all updates have ended, fewer events than the interval come after
  the snapshot.**
-/

namespace EventLedger

open Call (Keeps)

variable {σ ε α : Type}

/-- Whether the call has ended. -/
def Call.hasEnded {I : Interface} {φ : Type} : Call I φ α → Bool
  | waiting .. => false
  | _ => true

/-- What stores share, and their calls. -/
structure Workshop (σ ε : Type) where
  /-- The storage and the caches. -/
  commons : Commons ε
  /-- The calls in the order in which they began, each as far as it has got. -/
  calls : List (Caller σ ε × StoreCall σ ε (Reply σ ε))

namespace Regime

variable {R : Regime σ ε} {u u' : Workshop σ ε} {i : Nat}

/-- One step. -/
inductive Step (R : Regime σ ε) : Workshop σ ε → Workshop σ ε → Prop
  /-- A call begins. -/
  | begins {u : Workshop σ ε} {c : Caller σ ε} : R.Admits c → c.number = u.calls.length →
      Step R u ⟨u.commons, u.calls ++ [(c, c.program)]⟩
  /-- The client of a call cancels. -/
  | cancels (u : Workshop σ ε) (i : Nat) :
      Step R u ⟨⟨{ u.commons.depot with
        fired := Function.update u.commons.depot.fired i true }, u.commons.caches⟩, u.calls⟩
  /-- A cache is cleared. -/
  | clears (u : Workshop σ ε) (k : Nat) :
      Step R u ⟨u.commons.withCache k (u.commons.caches k).clear, u.calls⟩
  /-- A request of a call is answered. -/
  | answers {u : Workshop σ ε} {i : Nat} {c : Caller σ ε} {q : StoreRequest σ ε}
      {next : q.Answer → StoreCall σ ε (Reply σ ε)} {a : q.Answer} {w : Commons ε} :
      u.calls[i]? = some (c, .waiting q next) → u.commons.Answers c q a w →
      Step R u ⟨w, u.calls.set i (c, next a)⟩

/-- The later states. -/
abbrev Runs (R : Regime σ ε) : Workshop σ ε → Workshop σ ε → Prop := Relation.ReflTransGen R.Step

/-- The states that come to be over an empty storage and empty caches. -/
def Reachable (R : Regime σ ε) (u : Workshop σ ε) : Prop := ∃ ttl, R.Runs ⟨.start ttl, []⟩ u

/-- Every update of the aggregate has ended. -/
def Quiet (R : Regime σ ε) (u : Workshop σ ε) : Prop :=
  ∀ c p, (c, p) ∈ u.calls → c.Changes R.key → p.hasEnded = true

/-- The snapshot of the aggregate is fewer events behind than the interval. -/
structure Bounded (R : Regime σ ε) (w : Commons ε) : Prop where
  /-- It is not newer than the last event, -/
  reflected_le : w.reflected R.key ≤ w.last R.key
  /-- and fewer events come after it. -/
  near : w.last R.key - w.reflected R.key < R.every
  /-- A load without a cache replays fewer events than the interval. -/
  replays : ∀ (s : AggregateStore σ ε) (i : Nat) (id : AggregateId), s.keyOf id = R.key →
    s.codec = R.codec → s.snapshots ≠ none → s.caching = false → w.depot.fired i = false →
      ∃ snapshot state events, w.depot.StartsFrom s R.key snapshot state ∧
        events = w.depot.storage.events.load R.key ((snapshot.map (·.sequence)).getD 0 + 1) ∧
        events.length < R.every ∧
        w.depot.Yields s i id (s.rebuiltFrom id snapshot state events)

/-- What holds at every moment. -/
structure Good (R : Regime σ ε) (u : Workshop σ ε) : Prop where
  inv : R.Inv u.commons
  /-- An aggregate is changed by the calls that change it only. -/
  authors : ∀ i key n, (i, .commit key n) ∈ u.commons.depot.deeds →
    ∃ c p, u.calls[i]? = some (c, p) ∧ c.Changes key
  /-- A call goes on as it should, whatever the others do. -/
  calls : ∀ (i : Nat) c p, u.calls[i]? = some (c, p) → c.number = i ∧ R.Admits c ∧
    Keeps (R.discipline c) (fun w _ => R.Near c.number w) p u.commons

theorem good_start (ttl : Nat → Duration) : R.Good ⟨.start ttl, []⟩ where
  inv := inv_start ttl
  authors := by
    intro i key n hd
    cases hd
  calls := by
    intro i c p hi
    cases hi

/-! ### The invariant -/

/-- What changes neither the storage nor the diary keeps things good. -/
theorem Good.of_storage (hu : R.Good u) {w : Commons ε}
    (hstorage : w.depot.storage = u.commons.depot.storage)
    (hdeeds : w.depot.deeds = u.commons.depot.deeds)
    (hcached : ∀ k key e, StreamCache.entry? (w.caches k) key = some e →
      StreamCache.entry? (u.commons.caches k) key = some e) : R.Good ⟨w, u.calls⟩ where
  inv := hu.inv.of_storage hstorage hdeeds fun k key e he =>
    hu.inv.cached k key e (hcached k key e he)
  authors := by
    rw [hdeeds]
    exact hu.authors
  calls := by
    intro i c p hi
    obtain ⟨hnumber, hadmits, hkeeps⟩ := hu.calls i c p hi
    have hrely : Rely c.number u.commons w :=
      ⟨⟨[], hdeeds, by simp⟩, fun key => by rw [Commons.reflected, Commons.reflected, hstorage]⟩
    exact ⟨hnumber, hadmits, hkeeps.of_rely (fun h => stable_near R _ _ _ hrely.grows h) hrely⟩

/-- A call that begins keeps things good. -/
theorem Good.begins (hu : R.Good u) {c : Caller σ ε} (hc : R.Admits c)
    (hnumber : c.number = u.calls.length) : R.Good ⟨u.commons, u.calls ++ [(c, c.program)]⟩ where
  inv := hu.inv
  authors := by
    intro i key n hd
    obtain ⟨c', p, hi, hchanges⟩ := hu.authors i key n hd
    exact ⟨c', p, (List.getElem?_append_left (List.getElem?_eq_some_iff.1 hi).1).trans hi, hchanges⟩
  calls := by
    intro i c' p hi
    rcases Nat.lt_or_ge i u.calls.length with hlt | hge
    · rw [List.getElem?_append_left hlt] at hi
      exact hu.calls i c' p hi
    · obtain ⟨hlast, -⟩ := List.getElem?_eq_some_iff.1 hi
      rw [List.length_append, List.length_singleton] at hlast
      obtain rfl : i = u.calls.length := by omega
      rw [List.getElem?_concat_length] at hi
      obtain ⟨rfl, rfl⟩ := Prod.mk.inj (Option.some.inj hi)
      refine ⟨hnumber, hc, keeps_program hc hu.inv fun n hn => ?_⟩
      -- the call has done nothing so far
      obtain ⟨_, _, hi, -⟩ := hu.authors _ _ n hn
      rw [hnumber, List.getElem?_eq_none (Nat.le_refl _)] at hi
      cases hi

/-- A call whose request is answered keeps things good. -/
theorem Good.answers (hu : R.Good u) {c : Caller σ ε} {q : StoreRequest σ ε}
    {next : q.Answer → StoreCall σ ε (Reply σ ε)} {a : q.Answer} {w : Commons ε}
    (hi : u.calls[i]? = some (c, .waiting q next)) (ha : u.commons.Answers c q a w) :
    R.Good ⟨w, u.calls.set i (c, next a)⟩ := by
  obtain ⟨hnumber, hadmits, hkeeps⟩ := hu.calls i _ _ hi
  obtain ⟨hq, hnext⟩ := hkeeps u.commons (.of_eq _ rfl) hu.inv
  have hlt := (List.getElem?_eq_some_iff.1 hi).1
  constructor
  · exact hu.inv.answers hq ha
  · intro j key n hd
    rcases mem_commit_of_answers hq ha hd with hold | ⟨rfl, hchanges⟩
    · obtain ⟨c', p, hj, hchanges⟩ := hu.authors j key n hold
      by_cases hij : i = j
      · subst hij
        rw [hi] at hj
        obtain ⟨rfl, -⟩ := Prod.mk.inj (Option.some.inj hj)
        exact ⟨c, _, List.getElem?_set_self hlt, hchanges⟩
      · exact ⟨c', p, (List.getElem?_set_ne hij).trans hj, hchanges⟩
    · rw [hnumber]
      exact ⟨c, _, List.getElem?_set_self hlt, hchanges⟩
  · intro j c' p hj
    by_cases hij : i = j
    · subst hij
      rw [List.getElem?_set_self hlt] at hj
      obtain ⟨rfl, rfl⟩ := Prod.mk.inj (Option.some.inj hj)
      exact ⟨hnumber, hadmits, hnext a w ha⟩
    · rw [List.getElem?_set_ne hij] at hj
      obtain ⟨hnumber', hadmits', hkeeps'⟩ := hu.calls j c' p hj
      have hne : c.number ≠ c'.number := by
        rw [hnumber, hnumber']
        exact hij
      have hrely := rely_of_answers hq ha hne
      exact ⟨hnumber', hadmits',
        hkeeps'.of_rely (fun h => stable_near R _ _ _ hrely.grows h) hrely⟩

/-- **Every step keeps things good.** -/
theorem Step.good (h : R.Step u u') (hu : R.Good u) : R.Good u' := by
  cases h with
  | begins hc hnumber => exact hu.begins hc hnumber
  | cancels i => exact hu.of_storage rfl rfl fun _ _ _ he => he
  | clears k =>
    refine hu.of_storage rfl rfl fun k' key e he => ?_
    rcases Commons.entry?_withCache he with ⟨-, hnone⟩ | hold
    · cases hnone
    · exact hold
  | answers hi ha => exact hu.answers hi ha

/-- **Every reachable state is good.** -/
theorem Reachable.good (h : R.Reachable u) : R.Good u := by
  obtain ⟨ttl, hruns⟩ := h
  induction hruns with
  | refl => exact good_start ttl
  | tail _ hstep ih => exact hstep.good ih

/-! ### The bound -/

/-- The snapshot of the aggregate is not newer than its last event. -/
theorem Inv.reflected_le_last {w : Commons ε} (hw : R.Inv w) :
    w.reflected R.key ≤ w.last R.key := by
  cases hload : w.depot.storage.shelf.load R.key with
  | none =>
    rw [Commons.reflected, SnapshotShelf.reflected, hload]
    exact Nat.zero_le _
  | some x =>
    rw [Commons.reflected, SnapshotShelf.reflected_of_load hload]
    obtain ⟨hkey, i, newer, older, hdeeds, hmem, -⟩ := hw.diary.shelved _ x hload
    have hcommit : (i, .commit R.key x.sequence) ∈ w.depot.deeds := by
      rw [hdeeds, ← hkey]
      exact List.mem_append_right newer (List.mem_cons_of_mem _ hmem)
    rcases hw.diary.committed i R.key x.sequence hcommit with hreach | ⟨j, hsub⟩
    · exact hreach.le_lastNumber hw.diary.coherent
    · exact absurd (hsub.subset List.mem_cons_self) (hw.kept j R.key)

/-- When every update has ended, each stored event of the aggregate is near its snapshot. -/
theorem Good.near_of_quiet (hu : R.Good u) (hquiet : R.Quiet u) {e : CommittedEvent}
    (he : e ∈ (u.commons.depot.storage.events.stream R.key).values) :
    e.sequence < u.commons.reflected R.key + R.every := by
  obtain ⟨hall, hkey⟩ := hu.inv.diary.coherent.mem_stream.1 he
  obtain ⟨i, n, hmem, hle⟩ := hu.inv.accounted e hall
  rw [hkey] at hmem
  obtain ⟨c, p, hi, hchanges⟩ := hu.authors i R.key n hmem
  obtain ⟨rfl, -, hkeeps⟩ := hu.calls i c p hi
  have hended := hquiet c p (List.mem_of_getElem? hi) hchanges
  have hnear : R.Near c.number u.commons := by
    cases p with
    | done reply => exact hkeeps
    | failed e => exact hkeeps
    | waiting q next => cases hended
  exact Nat.lt_of_le_of_lt hle (hnear n hmem)

/-- **When all updates have ended, fewer events than the interval come after the snapshot.** -/
theorem bounded_of_quiet (hu : R.Reachable u) (hquiet : R.Quiet u) : R.Bounded u.commons := by
  have hgood := hu.good
  have hle := hgood.inv.reflected_le_last
  have hnear : u.commons.last R.key - u.commons.reflected R.key < R.every := by
    have hpos := R.every_pos
    rcases EventLog.lastNumber_cases u.commons.depot.storage.events R.key with hzero | ⟨e, he, hlast⟩
    · rw [Commons.last, hzero]
      omega
    · have hlt := hgood.near_of_quiet hquiet he
      rw [Commons.last, ← hlast]
      omega
  refine ⟨hle, hnear, ?_⟩
  intro s i id hkey hcodec hsnapshots hcaching hfired
  obtain ⟨strategy, hstrategy⟩ := Option.ne_none_iff_exists'.1 hsnapshots
  -- the load starts from the snapshot, if there is one
  have hstarts : ∃ snapshot state, u.commons.depot.StartsFrom s R.key snapshot state ∧
      (snapshot.map (·.sequence)).getD 0 = u.commons.reflected R.key := by
    rw [Commons.reflected, SnapshotShelf.reflected]
    cases hload : u.commons.depot.storage.shelf.load R.key with
    | none => exact ⟨none, _, .missing hload, rfl⟩
    | some x =>
      obtain ⟨state, hread⟩ := hgood.inv.readable x hload
      exact ⟨some x, state, .resumed hstrategy hload (hcodec ▸ hread), rfl⟩
  obtain ⟨snapshot, state, hstart, hreflected⟩ := hstarts
  refine ⟨snapshot, state, _, hstart, rfl, ?_, ?_⟩
  · rw [hreflected]
    exact Nat.lt_of_le_of_lt (hgood.inv.diary.coherent.length_load_le R.key _) hnear
  · rw [← hkey] at hstart ⊢
    exact Depot.yields_rebuiltFrom hcaching hfired hstart

/-! ### Runs in the simplest way -/

/-- The state in which a further call has been answered in the simplest way, up to where it is held.
-/
def joined (u : Workshop σ ε) (c : Caller σ ε) (decide : Root σ ε → Except Error (Root σ ε))
    (holds : (q : StoreRequest σ ε) → q.Answer → Bool) : Workshop σ ε :=
  let r := c.program.runPast (Commons.reply c decide) holds u.commons
  ⟨r.2, u.calls ++ [(c, r.1)]⟩

/-- The state in which a call has gone on to its end. -/
def finished (u : Workshop σ ε) (i : Nat) (decide : Root σ ε → Except Error (Root σ ε)) :
    Workshop σ ε :=
  match u.calls[i]? with
  | none => u
  | some (c, p) =>
    let r := p.runPast (Commons.reply c decide) (fun _ _ => false) u.commons
    ⟨r.2, u.calls.set i (c, r.1)⟩

/-- A call is answered up to where it is held. -/
theorem runs_runPast {c : Caller σ ε} {p : StoreCall σ ε (Reply σ ε)}
    {decide : Root σ ε → Except Error (Root σ ε)} (hi : u.calls[i]? = some (c, p))
    (hdecide : ∀ root, c.mayDecide root (decide root))
    (holds : (q : StoreRequest σ ε) → q.Answer → Bool) :
    R.Runs u ⟨(p.runPast (Commons.reply c decide) holds u.commons).2,
      u.calls.set i (c, (p.runPast (Commons.reply c decide) holds u.commons).1)⟩ :=
  Call.runs_runPast Workshop.mk (c, ·) (fun hi => .answers hi (Commons.answers_reply _ hdecide _))
    holds hi

theorem runs_joined {c : Caller σ ε} {decide : Root σ ε → Except Error (Root σ ε)}
    (hc : R.Admits c) (hnumber : c.number = u.calls.length)
    (hdecide : ∀ root, c.mayDecide root (decide root))
    (holds : (q : StoreRequest σ ε) → q.Answer → Bool) :
    R.Runs u (joined u c decide holds) := by
  have hrest := runs_runPast (R := R) (u := ⟨u.commons, u.calls ++ [(c, c.program)]⟩)
    List.getElem?_concat_length hdecide holds
  rw [List.set_append_right _ _ (Nat.le_refl _), Nat.sub_self] at hrest
  exact .head (.begins hc hnumber) hrest

theorem runs_finished {decide : Root σ ε → Except Error (Root σ ε)} (i : Nat)
    (hdecide : ∀ c p, u.calls[i]? = some (c, p) → ∀ root, c.mayDecide root (decide root)) :
    R.Runs u (finished u i decide) := by
  unfold finished
  split
  · exact .refl
  next c p hi => exact runs_runPast hi (hdecide c p hi) _

/-- A store of orders that brings a snapshot after every other event and uses a cache. -/
def sparse : OrderStore :=
  { OrderStore.plain with snapshots := some (.every 2), caching := true }

/-- The first order, with a snapshot after every other event. -/
def everyOther : Regime Order OrderEvent where
  key := sparse.keyOf Upkeep.firstId
  codec := Order.codec
  every := 2
  every_pos := by decide
  keepsStates state := by
    obtain ⟨form, hwrite, hread⟩ :=
      (Codec.exact_json OrderEvent.decode_encode Order.decode_encode).states state
    exact ⟨form, hwrite, state, hread⟩

/-- An update that adds an item to the first order. -/
def adding (number : Nat) : Caller Order OrderEvent :=
  ⟨number, sparse, 0, Upkeep.firstId, .update none fun root outcome => outcome = Upkeep.addItem root⟩

theorem admits_adding (number : Nat) : everyOther.Admits (adding number) where
  sameId root root' h := Upkeep.id_of_addItem root root' h.symm
  snapshots _ := rfl
  codec _ := rfl

/-- The first of three updates has ended.  The second one is held between its commit and its
snapshot, while the third one brings a newer snapshot. -/
def crossing : Workshop Order OrderEvent :=
  let u := joined ⟨.start fun _ => .ofSeconds 60, []⟩ (adding 0) Upkeep.addItem fun _ _ => false
  let u := joined u (adding 1) Upkeep.addItem Upkeep.atCommit
  joined u (adding 2) Upkeep.addItem fun _ _ => false

/-- The second update has gone on, and a fourth one has ended as well. -/
def crossed : Workshop Order OrderEvent :=
  joined (finished crossing 1 Upkeep.addItem) (adding 3) Upkeep.addItem fun _ _ => false

/-- A snapshot that is brought late is passed over, and the newer one bounds what is replayed. -/
theorem bounded_of_crossed : everyOther.Reachable crossed ∧ everyOther.Quiet crossed ∧
    crossed.commons.reflected everyOther.key = 3 ∧ crossed.commons.last everyOther.key = 4 ∧
    everyOther.Bounded crossed.commons := by
  have hadding : ∀ number root, (adding number).mayDecide root (Upkeep.addItem root) :=
    fun _ _ => rfl
  have hcrossing : everyOther.Runs ⟨.start fun _ => .ofSeconds 60, []⟩ crossing := by
    refine (runs_joined (admits_adding 0) rfl (hadding 0) fun _ _ => false).trans ?_
    refine (runs_joined (admits_adding 1) rfl (hadding 1) Upkeep.atCommit).trans ?_
    exact runs_joined (admits_adding 2) rfl (hadding 2) fun _ _ => false
  have hheld : ∀ c p, crossing.calls[1]? = some (c, p) → c = adding 1 := by
    intro c p hi
    exact (Prod.mk.inj (Option.some.inj hi)).1.symm
  have hreach : everyOther.Reachable crossed := by
    refine ⟨_, hcrossing.trans (.trans (runs_finished 1 fun c p hi => ?_)
      (runs_joined (admits_adding 3) rfl (hadding 3) fun _ _ => false))⟩
    rw [hheld c p hi]
    exact hadding 1
  have hended : (crossed.calls.all fun c => c.2.hasEnded) = true := by decide +kernel
  have hquiet : everyOther.Quiet crossed := fun c p hc _ => List.all_eq_true.1 hended _ hc
  exact ⟨hreach, hquiet, by decide +kernel, by decide +kernel, bounded_of_quiet hreach hquiet⟩

end Regime

end EventLedger
