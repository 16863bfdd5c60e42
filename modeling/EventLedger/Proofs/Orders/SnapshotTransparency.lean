import EventLedger.Proofs.Clients.Alone
import EventLedger.Proofs.Orders.Setting

/-!
# Snapshots of orders are transparent

A snapshot holds the state of an order to which emitted events were applied as they were.  A replay
sends the same events through their stored forms and the upgraders.  Both lead to the same order, so
a load that starts from a snapshot yields what a load from the first event on yields: the same state
at the same version, or the same failure.

## Main results

* `Order.load_snapshots_transparent` — **with snapshots a load yields what it yields without them.**
-/

namespace EventLedger.Order

variable {n : Nat} {log : EventLog} {s : System Order OrderEvent} {c : Caller Order OrderEvent}

/-- **With snapshots a load yields what it yields without them**, and that is the replay of all
events.  Stores and others may have committed whatever they like, the snapshot store may answer with
any snapshot that was ever brought for the order, with one that cannot be read, or with a failure,
and the stream may have any length that leaves a number to go on with. -/
theorem load_snapshots_transparent (hs : System.Reachable (setting (· = n) log True) s)
    (hc : (setting (· = n) log True).Admits c) (hcaching : c.store.caching = false)
    (hlive : s.world.fired c.number = false)
    (hroom : (s.world.events c.key).length < greatestSequence) :
    ∃ r, c.Yields s.world r ∧
      Caller.Yields { c with store := { c.store with snapshots := none } } s.world r ∧
      r = (OrderStore.upgrading n).rebuilt c.id (s.world.events c.key) := by
  obtain ⟨-, rfl⟩ := hc.fits.bound
  have huniform : ∀ m, (setting (· = c.store.upgraders.maxPasses) log True).bounds m →
      m = c.store.upgraders.maxPasses := fun m hm => hm.2
  have hplain : (setting (· = c.store.upgraders.maxPasses) log True).Admits
      { c with store := { c.store with snapshots := none } } :=
    ⟨⟨hc.fits.aggregate, hc.fits.codec, hc.fits.upgraders, hc.fits.bound⟩, hc.tracked, hc.emits⟩
  exact ⟨_, Setting.yields_rebuilt hs.good.inv hc hcaching huniform hlive hroom,
    Setting.yields_rebuilt hs.good.inv hplain hcaching huniform hlive hroom, rfl⟩

/-- An order that began with a legacy event, and a snapshot of it. -/
theorem load_snapshot_of_legacy : ∃ (s : System Order OrderEvent) (c : Caller Order OrderEvent)
    (r : Except Error OrderRoot), System.Reachable (setting (· = 16) legacyLog True) s ∧
      c.store.snapshots = some (.every 1) ∧ (s.world.events c.key).length = 2 ∧
      (History.offered s.world.history).map (·.sequence) = [2] ∧ c.Yields s.world r ∧
      Caller.Yields { c with store := { c.store with snapshots := none } } s.world r := by
  have hplay : (System.play?
      [part (some (.every 1)) false legacyId (some (none, .add "X" 1))]
      (.initial (setting (· = 16) legacyLog True) fun _ => .ofSeconds 60)
      (List.replicate 20 0)).any (fun s => decide
        ((s.world.events (key legacyId)).length = 2 ∧
          (History.offered s.world.history).map (·.sequence) = [2] ∧
          s.world.fired 1 = false)) = true := by
    decide +kernel
  obtain ⟨s, hs, -, hfacts⟩ := System.exists_reachable_of_play? (fun p hp i => by
    obtain rfl := List.mem_singleton.1 hp
    exact admits_part (by rfl) gapFree_legacyLog i) hplay
  obtain ⟨hlength, hoffered, hlive⟩ := of_decide_eq_true hfacts
  let c := (part (some (.every 1)) false legacyId none).caller 1
  have hc : (setting (· = 16) legacyLog True).Admits c := admits_part (by rfl) gapFree_legacyLog 1
  have hroom : (s.world.events c.key).length < greatestSequence := by
    rw [show c.key = key legacyId from rfl, hlength]
    decide
  obtain ⟨r, hwith, hwithout, -⟩ := load_snapshots_transparent hs hc rfl hlive hroom
  exact ⟨s, c, r, hs, rfl, hlength, hoffered, hwith, hwithout⟩

end EventLedger.Order
