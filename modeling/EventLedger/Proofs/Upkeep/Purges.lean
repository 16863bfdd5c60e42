import EventLedger.Orders.Store
import EventLedger.Proofs.Orders.Rules
import EventLedger.Proofs.Upkeep.Errands
import EventLedger.Proofs.Upkeep.Loads
import Mathlib.Logic.Function.Basic
import Mathlib.Logic.Relation

/-!
# What purges leave behind

Any number of updates, loads and purges over one storage in memory, through stores of any kinds.
Each is begun at any time, their requests are answered one at a time in any order, and their clients
may cancel.  When all of them have ended and every purge has succeeded, a snapshot on the shelf is
not newer than the last stored event of its aggregate: what was committed before a purge deleted the
events was brought before the purge deleted the snapshots, or it is there no more.

There is one order of requests in which this fails.  If a whole purge runs between the commit of an
update and the bringing of its snapshot, the snapshot is brought after everything was removed, and
nothing removes it.  Then the aggregate has no events and is loaded with the state that was purged.

## Main definitions

* `Errand`, `Upkeep` — calls as far as they have got, and the storage that they share.
* `Upkeep.Step`, `Upkeep.Reachable`, `Upkeep.Quiet` — runs, and the moments at which all calls have
  ended and every purge has succeeded.
* `Depot.CleanAt` — the shelf holds nothing newer than the events.
* `Upkeep.Good` — the invariant.

## Main results

* `Upkeep.Reachable.good` — every reachable state is good.
* `Upkeep.cleanAt_of_quiet` — **purges leave nothing behind**, unless a whole purge came between a
  commit and the bringing of the snapshot that was taken of it.
* `Upkeep.left_behind_of_raced` — a snapshot that was overtaken brings the purged state back.
-/

namespace EventLedger

open Call (Keeps RunsTo)

variable {σ ε α : Type}

namespace Depot

/-- The shelf holds nothing that is newer than the events of an aggregate. -/
structure CleanAt (w : Depot) (key : StreamKey) : Prop where
  /-- A snapshot is not newer than the last event. -/
  bounded : ∀ x, w.storage.shelf.load key = some x →
    ∃ e, (w.storage.events.stream key).values.getLast? = some e ∧ x.sequence ≤ e.sequence
  /-- Without events there is no snapshot, -/
  removed : (w.storage.events.stream key).values = [] → w.storage.shelf.load key = none
  /-- and every load without a cache finds a new aggregate. -/
  renewed : (w.storage.events.stream key).values = [] →
    ∀ {σ ε : Type} (s : AggregateStore σ ε) (i : Nat) (id : AggregateId), s.keyOf id = key →
      s.caching = false → w.fired i = false →
        w.Yields s i id (.ok ⟨id, s.aggregate.initial, 0, []⟩)

end Depot

/-! ### Calls and the storage that they share -/

/-- A call that uses the storage, as far as it has got. -/
inductive Errand : Type 1
  /-- A call of a store. -/
  | client {σ ε α : Type} (s : AggregateStore σ ε) (c : StoreCall σ ε α)
  /-- A purge. -/
  | purge (c : AdminCall Nat)

namespace Errand

/-- A call that has not yet asked for anything. -/
inductive Begins : Errand → Prop
  | update {σ ε : Type} (s : AggregateStore σ ε) (id : AggregateId) (source : Option String) :
      Begins (.client s (s.update id source))
  | load {σ ε : Type} (s : AggregateStore σ ε) (id : AggregateId) : Begins (.client s (s.load id))
  | purge (name id : String) : Begins (.purge (EventLedger.purge name id))

/-- Whether the call has ended, and with success if it is a purge. -/
def isSettled : Errand → Bool
  | .client _ (.waiting ..) => false
  | .client .. => true
  | .purge (.done _) => true
  | .purge _ => false

/-- The call goes on as it should, whatever the others do. -/
def GoesOn (i : Nat) (w : Depot) : Errand → Prop
  | .client s c => Depot.Behaves s i c w
  | .purge c => Keeps (Depot.purgeDiscipline i) (fun w r => ∀ n, r = .ok n → w.Swept i) c w

/-- What the others do changes nothing of how a call goes on. -/
theorem GoesOn.of_rely {i : Nat} {w w' : Depot} {e : Errand} (h : e.GoesOn i w)
    (hr : Depot.Rely i w w') : e.GoesOn i w' := by
  cases e with
  | client s c => exact Keeps.of_rely (fun h => h) hr h
  | purge c => exact Keeps.of_rely (fun hswept n hn => (hswept n hn).of_rely hr) hr h

/-- A call that begins goes on as it should. -/
theorem Begins.goesOn {i : Nat} {w : Depot} {e : Errand} (h : e.Begins) (hw : w.Inv)
    (hnew : ∀ d ∈ w.deeds, d.1 ≠ i) : e.GoesOn i w := by
  cases h with
  | update s id source => exact Depot.behaves_update hw
  | load s id => exact Depot.behaves_of_reading (AggregateStore.asks_load id) w
  | purge name id => exact Depot.keeps_purge hnew name id

end Errand

/-- A storage and the calls that share it. -/
structure Upkeep : Type 1 where
  /-- The storage. -/
  depot : Depot
  /-- The calls in the order in which they began. -/
  calls : List Errand

namespace Upkeep

/-- One step. -/
inductive Step : Upkeep → Upkeep → Prop
  /-- A call begins. -/
  | begins {u : Upkeep} {e : Errand} : e.Begins → Step u ⟨u.depot, u.calls ++ [e]⟩
  /-- The client of a call cancels. -/
  | cancels (u : Upkeep) (i : Nat) :
      Step u ⟨{ u.depot with fired := Function.update u.depot.fired i true }, u.calls⟩
  /-- A request of a store is answered. -/
  | answers {u : Upkeep} {i : Nat} {σ ε α : Type} {s : AggregateStore σ ε} {q : StoreRequest σ ε}
      {next : q.Answer → StoreCall σ ε α} {a : q.Answer} {w : Depot} :
      u.calls[i]? = some (.client s (.waiting q next)) → u.depot.Answers s i q a w →
      Step u ⟨w, u.calls.set i (.client s (next a))⟩
  /-- A request of a purge is answered. -/
  | attends {u : Upkeep} {i : Nat} {q : AdminRequest} {next : q.Answer → AdminCall Nat}
      {a : q.Answer} {w : Depot} :
      u.calls[i]? = some (.purge (.waiting q next)) → u.depot.Attends i q a w →
      Step u ⟨w, u.calls.set i (.purge (next a))⟩

/-- The later states. -/
abbrev Runs : Upkeep → Upkeep → Prop := Relation.ReflTransGen Step

/-- The states that come to be over a coherent log and an empty shelf. -/
def Reachable (u : Upkeep) : Prop := ∃ l, l.Coherent ∧ Runs ⟨.start l, []⟩ u

/-- All calls have ended, and every purge with success. -/
def Quiet (u : Upkeep) : Prop := ∀ e ∈ u.calls, e.isSettled = true

/-- What holds at every moment. -/
structure Good (u : Upkeep) : Prop where
  inv : u.depot.Inv
  /-- The deeds are those of calls, -/
  authors : ∀ d ∈ u.depot.deeds, d.1 < u.calls.length
  /-- and events are deleted by purges only. -/
  purged : ∀ j key, (j, .deleteEvents key) ∈ u.depot.deeds → ∃ c, u.calls[j]? = some (.purge c)
  calls : ∀ (i : Nat) (e : Errand), u.calls[i]? = some e → e.GoesOn i u.depot

variable {u u' : Upkeep} {i : Nat} {key : StreamKey}

theorem good_start {l : EventLog} (hl : l.Coherent) : Good ⟨.start l, []⟩ where
  inv := Depot.inv_start hl
  authors := by
    intro d hd
    cases hd
  purged := by
    intro j key hd
    cases hd
  calls := by
    intro i e he
    cases he

/-! ### The invariant -/

/-- A call whose request is answered keeps things good. -/
theorem Good.change (hu : u.Good) {e : Errand} {w : Depot} (hi : i < u.calls.length) (hw : w.Inv)
    (hrely : ∀ j, i ≠ j → Depot.Rely j u.depot w)
    (hpurged : ∀ key, (i, .deleteEvents key) ∈ w.deeds → ∃ c, e = .purge c)
    (hgoes : e.GoesOn i w) : Good ⟨w, u.calls.set i e⟩ where
  inv := hw
  authors := by
    rintro ⟨j, d⟩ hd
    rw [List.length_set]
    by_cases hij : i = j
    · exact hij ▸ hi
    · exact hu.authors _ ((hrely j hij).of_mem hd)
  purged := by
    intro j key hd
    by_cases hij : i = j
    · subst hij
      obtain ⟨c, rfl⟩ := hpurged key hd
      exact ⟨c, List.getElem?_set_self hi⟩
    · obtain ⟨c, hc⟩ := hu.purged j key ((hrely j hij).of_mem hd)
      exact ⟨c, (List.getElem?_set_ne hij).trans hc⟩
  calls := by
    intro j e' he'
    by_cases hij : i = j
    · subst hij
      rw [List.getElem?_set_self hi] at he'
      obtain rfl := Option.some.inj he'
      exact hgoes
    · rw [List.getElem?_set_ne hij] at he'
      exact (hu.calls j e' he').of_rely (hrely j hij)

/-- **Every step keeps things good.** -/
theorem Step.good (h : Step u u') (hu : u.Good) : u'.Good := by
  cases h with
  | begins he =>
    constructor
    · exact hu.inv
    · intro d hd
      rw [List.length_append]
      exact Nat.lt_add_right _ (hu.authors d hd)
    · intro j key hd
      obtain ⟨c, hc⟩ := hu.purged j key hd
      exact ⟨c, (List.getElem?_append_left (List.getElem?_eq_some_iff.1 hc).1).trans hc⟩
    · intro j e' he'
      rcases Nat.lt_or_ge j u.calls.length with hlt | hge
      · rw [List.getElem?_append_left hlt] at he'
        exact hu.calls j e' he'
      · -- the call has done nothing so far
        obtain rfl := List.mem_singleton.1 (List.mem_of_getElem?
          ((List.getElem?_append_right hge).symm.trans he'))
        exact he.goesOn hu.inv fun d hd => Nat.ne_of_lt (Nat.lt_of_lt_of_le (hu.authors d hd) hge)
  | cancels i =>
    constructor
    · exact hu.inv.of_storage rfl rfl
    · exact hu.authors
    · exact hu.purged
    · intro j e he
      exact (hu.calls j e he).of_rely ⟨[], rfl, by simp⟩
  | @answers i σ ε α s q next a w hi ha =>
    obtain ⟨hq, hnext⟩ := hu.calls i _ hi u.depot (.refl i _) hu.inv
    refine hu.change (List.getElem?_eq_some_iff.1 hi).1 (hu.inv.answers hq ha)
      (fun j hij => ha.rely hij) ?_ (hnext a w ha)
    intro key hd
    obtain ⟨c, hc⟩ := hu.purged i key (ha.of_mem_deleteEvents hq hd)
    cases hi.symm.trans hc
  | @attends i q next a w hi ha =>
    obtain ⟨hq, hnext⟩ := hu.calls i _ hi u.depot (.refl i _) hu.inv
    exact hu.change (List.getElem?_eq_some_iff.1 hi).1 (hu.inv.attends hq ha)
      (fun j hij => ha.rely hij) (fun _ _ => ⟨_, rfl⟩) (hnext a w ha)

/-- **Every reachable state is good.** -/
theorem Reachable.good (h : Reachable u) : u.Good := by
  obtain ⟨l, hl, hruns⟩ := h
  induction hruns with
  | refl => exact good_start hl
  | tail _ hstep ih => exact hstep.good ih

/-! ### Runs in the simplest way -/

/-- A call is answered up to where it is held. -/
theorem runs_runPast {I : Interface} {φ : Type} {f : Call I φ α → Errand}
    {answer : (q : I.Request) → Depot → I.Answer q × Depot}
    (hstep : ∀ {u : Upkeep} {q next}, u.calls[i]? = some (f (.waiting q next)) →
      Step u ⟨(answer q u.depot).2, u.calls.set i (f (next (answer q u.depot).1))⟩)
    (holds : (q : I.Request) → I.Answer q → Bool) {c : Call I φ α} (hi : u.calls[i]? = some (f c)) :
    Runs u ⟨(c.runPast answer holds u.depot).2,
      u.calls.set i (f (c.runPast answer holds u.depot).1)⟩ :=
  Call.runs_runPast Upkeep.mk f (fun {w calls _ _} hi => hstep (u := ⟨w, calls⟩) hi) holds hi

/-- The state in which a further call of a store has been answered in the simplest way, up to where
it is held. -/
def joined (u : Upkeep) (s : AggregateStore σ ε) (decide : Root σ ε → Except Error (Root σ ε))
    (holds : (q : StoreRequest σ ε) → q.Answer → Bool) (c : StoreCall σ ε α) : Upkeep :=
  let r := c.runPast (Depot.reply s decide u.calls.length) holds u.depot
  ⟨r.2, u.calls ++ [.client s r.1]⟩

/-- The state in which a further purge has been answered in the simplest way. -/
def purged (u : Upkeep) (name id : String) : Upkeep :=
  let r := (purge name id).runPast (Depot.attend u.calls.length) (fun _ _ => false) u.depot
  ⟨r.2, u.calls ++ [.purge r.1]⟩

theorem runs_joined (u : Upkeep) {s : AggregateStore σ ε}
    {decide : Root σ ε → Except Error (Root σ ε)}
    (hdecide : ∀ root decided, decide root = .ok decided → decided.id = root.id)
    (holds : (q : StoreRequest σ ε) → q.Answer → Bool) {c : StoreCall σ ε α}
    (hc : (Errand.client s c).Begins) : Runs u (u.joined s decide holds c) := by
  have hrest := runs_runPast (u := ⟨u.depot, u.calls ++ [.client s c]⟩) (f := Errand.client s)
    (fun hi => .answers hi (Depot.answers_reply _ s hdecide _ _)) holds List.getElem?_concat_length
  rw [List.set_append_right _ _ (Nat.le_refl _), Nat.sub_self] at hrest
  exact .head (.begins hc) hrest

theorem runs_purged (u : Upkeep) (name id : String) : Runs u (u.purged name id) := by
  have hrest := runs_runPast (u := ⟨u.depot, u.calls ++ [.purge (purge name id)]⟩)
    (f := Errand.purge) (fun hi => .attends hi (Depot.attends_attend _ _ _)) (fun _ _ => false)
    List.getElem?_concat_length
  rw [List.set_append_right _ _ (Nat.le_refl _), Nat.sub_self] at hrest
  exact .head (.begins (.purge name id)) hrest

/-! ### What is left behind -/

/-- When all is quiet, every deletion of events was followed by one of snapshots. -/
theorem Good.swept (hu : u.Good) (hquiet : u.Quiet) {j : Nat}
    (hd : (j, .deleteEvents key) ∈ u.depot.deeds) : u.depot.Swept j := by
  obtain ⟨c, hc⟩ := hu.purged j key hd
  have hsettled := hquiet _ (List.mem_of_getElem? hc)
  have hgoes := hu.calls j _ hc
  cases c with
  | done n => exact hgoes n rfl
  | failed e => cases hsettled
  | waiting q next => cases hsettled

/-- **Purges leave nothing behind**: when all calls have ended and every purge with success, the
shelf holds nothing of an aggregate that is newer than its events, unless a whole purge came between
a commit and the bringing of the snapshot that was taken of it. -/
theorem cleanAt_of_quiet (hu : Reachable u) (hquiet : u.Quiet)
    (hkey : ∀ x, u.depot.storage.shelf.load key = some x → ¬u.depot.Overtaken x) :
    u.depot.CleanAt key := by
  have hgood := hu.good
  have hreaches : ∀ x, u.depot.storage.shelf.load key = some x →
      u.depot.storage.events.Reaches key x.sequence := by
    intro x hx
    rcases hgood.inv.reaches_or_overtaken (fun j _ hd => hgood.swept hquiet hd) hx with
      hreach | hover
    · exact hreach
    · exact absurd hover (hkey x hx)
  have hbounded : ∀ x, u.depot.storage.shelf.load key = some x → ∃ e,
      (u.depot.storage.events.stream key).values.getLast? = some e ∧ x.sequence ≤ e.sequence :=
    fun x hx => (hreaches x hx).exists_getLast? hgood.inv.coherent
  have hremoved : (u.depot.storage.events.stream key).values = [] →
      u.depot.storage.shelf.load key = none := by
    intro hnone
    cases hx : u.depot.storage.shelf.load key with
    | none => rfl
    | some x =>
      obtain ⟨e, he, -⟩ := hbounded x hx
      rw [hnone] at he
      cases he
  refine ⟨hbounded, hremoved, ?_⟩
  rintro hnone σ ε s i id rfl hcaching hfired
  exact Depot.yields_initial s hcaching hfired (hremoved hnone) hnone

/-- A store of orders that brings a snapshot after every event. -/
def eager : OrderStore := { OrderStore.plain with snapshots := some (.every 1) }

/-- An order, for examples. -/
def firstId : AggregateId := ⟨"order-1", rfl⟩

/-- Another order, for examples. -/
def secondId : AggregateId := ⟨"order-2", rfl⟩

/-- The decision to add an item, for examples. -/
def addItem (root : OrderRoot) : Except Error OrderRoot := root.add "X" 1

theorem id_of_addItem (root decided : OrderRoot) (h : addItem root = .ok decided) :
    decided.id = root.id :=
  (@OrderCommand.emits (.add "X" 1) root decided h).id_eq

/-- The state before any call has begun, over an empty storage. -/
def idle : Upkeep := ⟨.start .empty, []⟩

/-- The first order has got an item and was purged, and then the second one has got an item. -/
def tidied : Upkeep :=
  let u := idle.joined eager addItem (fun _ _ => false) (eager.update firstId none)
  (u.purged "order" "order-1").joined eager addItem (fun _ _ => false) (eager.update secondId none)

/-- What was purged is gone, and what has come since is kept. -/
theorem cleanAt_of_tidied : Reachable tidied ∧ tidied.Quiet ∧
    (∃ x, tidied.depot.storage.shelf.load (eager.keyOf secondId) = some x ∧ x.sequence = 1) ∧
    (∀ x, tidied.depot.storage.shelf.load (eager.keyOf secondId) = some x →
      ¬tidied.depot.Overtaken x) ∧
    tidied.depot.CleanAt (eager.keyOf firstId) ∧ tidied.depot.CleanAt (eager.keyOf secondId) := by
  have hreach : Reachable tidied := by
    refine ⟨.empty, EventLog.coherent_empty, ?_⟩
    exact ((runs_joined idle id_of_addItem _ (.update eager firstId none)).trans
      (runs_purged _ "order" "order-1")).trans
        (runs_joined _ id_of_addItem _ (.update eager secondId none))
  have hsettled : tidied.calls.all (·.isSettled) = true := by decide +kernel
  have hquiet : tidied.Quiet := List.all_eq_true.1 hsettled
  have hfirst : (tidied.depot.storage.shelf.load (eager.keyOf firstId)).isNone = true := by
    decide +kernel
  have hsecond : (tidied.depot.storage.shelf.load (eager.keyOf secondId)).map (·.sequence) =
      some 1 := by
    decide +kernel
  have hkept : (tidied.depot.deeds.all fun d =>
      !d.2.removesSnapshots (eager.keyOf secondId)) = true := by
    decide +kernel
  have hnot : ∀ x, tidied.depot.storage.shelf.load (eager.keyOf secondId) = some x →
      ¬tidied.depot.Overtaken x := by
    rintro x hx ⟨i, j, hsub⟩
    obtain ⟨hkey, -⟩ := hreach.good.inv.shelved _ x hx
    rw [hkey] at hsub
    have hmem := hsub.subset (List.mem_cons_of_mem _ List.mem_cons_self)
    have hremoves := List.all_eq_true.1 hkept _ hmem
    simp [Deed.removesSnapshots] at hremoves
  obtain ⟨x, hx, hseq⟩ := Option.map_eq_some_iff.1 hsecond
  refine ⟨hreach, hquiet, ⟨x, hx, hseq⟩, hnot, cleanAt_of_quiet hreach hquiet ?_,
    cleanAt_of_quiet hreach hquiet hnot⟩
  intro y hy
  rw [Option.isNone_iff_eq_none.1 hfirst] at hy
  cases hy

/-- Whether the request was a commit, for a call to be held there. -/
def atCommit (q : StoreRequest σ ε) (_ : q.Answer) : Bool :=
  match q with
  | .storage (.commit ..) => true
  | _ => false

/-- An update of the first order is held right after its commit. -/
def held : Upkeep := idle.joined eager addItem atCommit (eager.update firstId none)

/-- What is left of that update. -/
def heldCall : StoreCall Order OrderEvent (List CommittedEvent) :=
  ((eager.update firstId none).runPast (Depot.reply eager addItem 0) atCommit idle.depot).1

/-- The first order was purged while the update was held, and then the update has gone on. -/
def raced : Upkeep :=
  let u := held.purged "order" "order-1"
  let r := heldCall.runPast (Depot.reply eager addItem 0) (fun _ _ => false) u.depot
  ⟨r.2, u.calls.set 0 (.client eager r.1)⟩

/-- The snapshot that was overtaken brings back what was purged. -/
theorem left_behind_of_raced : Reachable raced ∧ raced.Quiet ∧
    ¬raced.depot.CleanAt (eager.keyOf firstId) ∧
    ∃ root w', RunsTo (Depot.Answers eager 2) (eager.load firstId) raced.depot (.ok root) w' ∧
      root.version = 1 ∧ root.state.lines = [⟨"X", 1⟩] := by
  have hreach : Reachable raced := by
    refine ⟨.empty, EventLog.coherent_empty, ?_⟩
    refine ((runs_joined idle id_of_addItem _ (.update eager firstId none)).trans
      (runs_purged held "order" "order-1")).trans ?_
    exact runs_runPast (f := Errand.client eager)
      (fun hi => .answers hi (Depot.answers_reply _ eager id_of_addItem _ _)) _ rfl
  have hsettled : raced.calls.all (·.isSettled) = true := by decide +kernel
  have hevents :
      (raced.depot.storage.events.stream (eager.keyOf firstId)).values.isEmpty = true := by
    decide +kernel
  have hshelf : (raced.depot.storage.shelf.load (eager.keyOf firstId)).isSome = true := by
    decide +kernel
  have hload : ((eager.load firstId).runState (Depot.reply eager addItem 2)
      raced.depot).1.toOption.map (fun root => (root.version, root.state.lines)) =
        some (1, [⟨"X", 1⟩]) := by
    decide +kernel
  refine ⟨hreach, List.all_eq_true.1 hsettled, ?_, ?_⟩
  · intro hclean
    rw [hclean.removed (List.isEmpty_iff.1 hevents)] at hshelf
    cases hshelf
  · have hrun : RunsTo (Depot.Answers eager 2) (eager.load firstId) raced.depot _ _ :=
      .of_runState (fun w q => w.answers_reply eager id_of_addItem 2 q) _ _
    cases hend : ((eager.load firstId).runState (Depot.reply eager addItem 2) raced.depot).1 with
    | error e =>
      rw [hend] at hload
      cases hload
    | ok root =>
      rw [hend] at hload hrun
      obtain ⟨hversion, hlines⟩ := Prod.mk.inj (Option.some.inj hload)
      exact ⟨root, _, hrun, hversion, hlines⟩

end Upkeep

end EventLedger
