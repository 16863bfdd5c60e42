import EventLedger.Proofs.Clients.System
import EventLedger.Proofs.Requests

/-!
# Loads that are run alone

While the others rest, a load without a cache finds all stored events, whatever the snapshot store
answers.

## Main definitions

* `Caller.Yields` — a load that is run alone ends, and always with the same result.

## Main results

* `Setting.yields_rebuilt` — **a load without a cache yields the replay of all events**, if all
  stores have the same bound on passes.
* `Caller.yields_rebuilt_of_plain` — **without snapshots it does so whatever is stored**, with any
  bound on passes.
-/

namespace EventLedger

variable {σ ε : Type}

/-! ### How reading requests are answered -/

namespace World

variable {c : Caller σ ε} {w w' : World σ ε} {q : StoreRequest σ ε}

theorem exists_serves_of_isReading (w : World σ ε) (hq : q.IsReading) :
    ∃ a w', w.serves c q a w' := by
  cases q with
  | storage q =>
    cases q with
    | load => exact ⟨_, _, _, answersStorage_load.2 ⟨rfl, rfl⟩, rfl⟩
    | loadSnapshot => exact ⟨.ok none, _, _, ⟨trivial, rfl⟩, rfl⟩
    | _ => exact hq.elim
  | cached => exact ⟨_, _, _, ⟨⟨0, 0⟩, rfl, rfl⟩, rfl⟩
  | keep => exact ⟨_, _, _, ⟨⟨0, 0⟩, rfl, rfl⟩, rfl⟩
  | generation => exact ⟨_, _, _, ⟨rfl, rfl⟩, rfl⟩
  | readState => exact ⟨_, _, _, ⟨rfl, rfl⟩, rfl⟩
  | isCancelled => exact ⟨_, _, _, ⟨rfl, rfl⟩, rfl⟩
  | _ => exact hq.elim

/-- Reading stores nothing and cancels nothing. -/
theorem serves_of_isReading {a : q.Answer} (hq : q.IsReading) (h : w.serves c q a w') :
    w'.log = w.log ∧ w'.fired = w.fired := by
  obtain ⟨w₁, ha, rfl⟩ := h
  cases q with
  | storage q =>
    cases q with
    | load =>
      obtain ⟨-, rfl⟩ := answersStorage_load.1 ha
      exact ⟨rfl, rfl⟩
    | loadSnapshot =>
      obtain ⟨-, rfl⟩ := ha
      exact ⟨rfl, rfl⟩
    | _ => exact hq.elim
  | cached =>
    obtain ⟨now, -, rfl⟩ := ha
    exact ⟨rfl, rfl⟩
  | keep =>
    obtain ⟨now, -, rfl⟩ := ha
    exact ⟨rfl, rfl⟩
  | generation =>
    obtain ⟨-, rfl⟩ := ha
    exact ⟨rfl, rfl⟩
  | readState =>
    obtain ⟨-, rfl⟩ := ha
    exact ⟨rfl, rfl⟩
  | isCancelled =>
    obtain ⟨-, rfl⟩ := ha
    exact ⟨rfl, rfl⟩
  | _ => exact hq.elim

end World

/-! ### What is loaded -/

/-- The load of a client, run alone from `w`, ends, and always with the result `r`. -/
def Caller.Yields (c : Caller σ ε) (w : World σ ε) (r : Except Error (Root σ ε)) : Prop :=
  (∃ w', Call.RunsTo (World.serves c) (c.store.load c.id) w r w') ∧
    ∀ r' w', Call.RunsTo (World.serves c) (c.store.load c.id) w r' w' → r' = r

namespace Setting

variable {T : Setting σ ε} {c : Caller σ ε} {w w' : World σ ε}

/-- A load that is run alone yields what its store rebuilds of all stored events. -/
theorem rebuilt_of_runsTo (hw : T.Inv w) (hc : T.Admits c) (hcaching : c.store.caching = false)
    (huniform : ∀ m, T.bounds m → m = c.store.upgraders.maxPasses)
    (hlive : w.fired c.number = false) (hroom : (w.events c.key).length < greatestSequence)
    {r : Except Error (Root σ ε)}
    (hrun : Call.RunsTo (World.serves c) (c.store.load c.id) w r w') :
    r = (T.reader c.store.upgraders.maxPasses).rebuilt c.id (w.events c.key) := by
  obtain ⟨hlog, hfired⟩ := (AggregateStore.asks_load c.id).keeps_of_runsTo
    (Q := fun w' => w'.log = w.log ∧ w'.fired = w.fired)
    (fun hq ha hQ => by
      obtain ⟨hlog, hfired⟩ := World.serves_of_isReading hq ha
      exact ⟨hlog.trans hQ.1, hfired.trans hQ.2⟩) hrun ⟨rfl, rfl⟩
  have hevents : w'.events c.key = w.events c.key := by rw [World.events, World.events, hlog]
  have hkeeps : Call.Keeps (T.discipline c hc) _ (c.store.load c.id) w := keeps_loadCall hw
  have hrefl : ∀ w, T.Inv w → T.Rely c w w := fun w _ => .refl w
  have hends := (hkeeps.of_runsTo hrefl hrun hw).2.2
  have hfloor : floor c w = (w.events c.key).length := by simp [floor, hcaching]
  rw [hfloor] at hends
  cases r with
  | ok root =>
    obtain ⟨st, V, rfl, hlow, hV, hshows⟩ := hends
    rw [hevents] at hV hshows
    obtain rfl : V = (w.events c.key).length := Nat.le_antisymm hV hlow
    rw [List.take_length] at hshows
    have hthorough : T.Thorough c.store.upgraders.maxPasses :=
      thorough_of_le fun m hm => Nat.le_of_eq (huniform m hm)
    have hlast := (hw.gapFree c.key hc.tracked).sequence_getLast?_take (Nat.le_refl _)
    rw [List.take_length] at hlast
    rw [hthorough.rebuilt hshows]
    exact congrArg (fun V => Except.ok (Root.mk c.id st V [])) hlast.symm
  | error e =>
    obtain ⟨-, ⟨-, hgone⟩ | hfull | ⟨V, hlow, hV, e', he', heq⟩⟩ := hends
    · rw [hfired, hlive] at hgone
      cases hgone
    · rw [hevents] at hfull
      exact absurd hroom (Nat.not_lt.2 hfull)
    · rw [hevents] at hV he'
      obtain rfl : V = (w.events c.key).length := Nat.le_antisymm hV hlow
      rw [List.take_length] at he'
      rw [he', heq huniform]

/-- **A load without a cache yields the replay of all events.** -/
theorem yields_rebuilt (hw : T.Inv w) (hc : T.Admits c) (hcaching : c.store.caching = false)
    (huniform : ∀ m, T.bounds m → m = c.store.upgraders.maxPasses)
    (hlive : w.fired c.number = false) (hroom : (w.events c.key).length < greatestSequence) :
    c.Yields w ((T.reader c.store.upgraders.maxPasses).rebuilt c.id (w.events c.key)) := by
  have hresult : ∀ r w', Call.RunsTo (World.serves c) (c.store.load c.id) w r w' →
      r = (T.reader c.store.upgraders.maxPasses).rebuilt c.id (w.events c.key) :=
    fun _ _ => rebuilt_of_runsTo hw hc hcaching huniform hlive hroom
  have hlive : ∀ w (q : StoreRequest σ ε), q.IsReading → ∃ a w', World.serves c w q a w' :=
    fun w _ => w.exists_serves_of_isReading
  obtain ⟨r, w', hrun⟩ := (AggregateStore.asks_load c.id).exists_runsTo hlive w
  exact ⟨⟨w', hresult r w' hrun ▸ hrun⟩, hresult⟩

end Setting

/-! ### Loads without cache and snapshots -/

namespace AggregateStore

variable {s : AggregateStore σ ε}

/-- A load without cache and snapshots reads all events at once and rebuilds the aggregate. -/
theorem load_eq_rebuilt (hcaching : s.caching = false) (hsnapshots : s.snapshots = none)
    (id : AggregateId) :
    s.load id = StoreCall.checkLive.bind fun _ =>
      (StoreCall.storage (.load (s.keyOf id) 1)).bind fun es => Call.ofExcept (s.rebuilt id es) := by
  have hstart : ¬ greatestSequence ≤ 0 := by decide
  have hread : s.readRoot id = StoreCall.checkLive.bind fun _ =>
      (StoreCall.storage (.load (s.keyOf id) 1)).bind fun es =>
        (Call.ofExcept (s.currentForms id es)).bind fun xs =>
          (Call.ofExcept (s.aggregate.replay s.aggregate.initial xs)).bind fun st =>
            .done (⟨id, st, (es.getLast?.map (·.sequence)).getD 0, []⟩,
              ⟨none, es, xs, (es.getLast?.map (·.sequence)).getD 0⟩) := by
    simp [readRoot, hcaching, readStream, startingSnapshot, hsnapshots, rebuild, startingState,
      hstart, Call.bind_assoc]
  have hload : s.load id = (s.readRoot id).bind fun r => .done r.1 := by
    simp [load, loadRoot, cachedStream, hcaching]
  rw [hload, hread]
  simp only [Call.bind_assoc]
  refine congrArg _ (funext fun _ => congrArg _ (funext fun es => ?_))
  unfold rebuilt
  cases s.currentForms id es with
  | error e => rfl
  | ok xs =>
    cases h : s.aggregate.replay s.aggregate.initial xs with
    | error e => simp [bind, Except.bind, Call.ofExcept, h]
    | ok st => simp [bind, Except.bind, pure, Except.pure, Call.ofExcept, h]

end AggregateStore

/-- **A load without cache and snapshots yields the replay of all events.** -/
theorem Caller.yields_rebuilt_of_plain {c : Caller σ ε} {w : World σ ε}
    (hcaching : c.store.caching = false) (hsnapshots : c.store.snapshots = none)
    (hlive : w.fired c.number = false) :
    c.Yields w (c.store.rebuilt c.id (w.log.load c.key 1)) := by
  have hresult : ∀ r w', Call.RunsTo (World.serves c) (c.store.load c.id) w r w' →
      r = c.store.rebuilt c.id (w.log.load c.key 1) := by
    intro r w' hrun
    rw [AggregateStore.load_eq_rebuilt hcaching hsnapshots] at hrun
    cases hrun with
    | waiting hcheck hrun =>
      obtain ⟨_, ⟨rfl, rfl⟩, rfl⟩ := hcheck
      simp only [hlive] at hrun
      cases hrun with
      | waiting hread hrun =>
        obtain ⟨_, hread, rfl⟩ := hread
        obtain ⟨rfl, rfl⟩ := World.answersStorage_load.1 hread
        simp only [World.noted, hlive] at hrun
        exact hrun.of_ofExcept.1
  obtain ⟨r, w', hrun⟩ := (AggregateStore.asks_load c.id).exists_runsTo
    (fun w (q : StoreRequest σ ε) => w.exists_serves_of_isReading (c := c)) w
  exact ⟨⟨w', hresult r w' hrun ▸ hrun⟩, hresult⟩

end EventLedger
