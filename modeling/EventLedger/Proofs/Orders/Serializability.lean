import EventLedger.Proofs.Clients.Commits
import EventLedger.Proofs.Orders.Setting

/-!
# Updates of an order are serializable

Whatever the order in which the requests of all clients are answered, an order's stream is what one
client after another would have made it: each committed batch is what its decision emits on the
order that the events before it describe.  Loads may have come from a stale cache or a snapshot; the
numbers that a batch takes tell whether they had.

## Main definitions

* `Order.DecidedAt` — a batch is what its decision emits on the events before it.
* `Order.Serialized` — the stream consists of such batches, one of each call that committed.

## Main results

* `Order.serialized_of_reachable` — **in every reachable system the stream is serialized.**
-/

namespace EventLedger.Order

/-- The batch of the commit `h` stands right behind the first `V` events, and it is what the
decision of the call emits on the order that those describe. -/
structure DecidedAt (es : List CommittedEvent) (c : Caller Order OrderEvent)
    (h : Commit Order OrderEvent) (V : Nat) : Prop where
  nonempty : h.stored ≠ []
  batch : ∀ e ∈ h.stored, e.batchId = h.batchId
  place : (es.drop V).take h.stored.length = h.stored
  decided : ∃ root root', rebuilt c.id (es.take V) = .ok root ∧ root.version = V ∧
    c.mayDecide root (.ok root') ∧
    List.Forall₂ (fun x e => e.type = x.type ∧ e.payload = x.encode) root'.uncommitted h.stored

/-- The stream of an order consists of the events of the beginning and of the batches of calls. -/
structure Serialized (log : EventLog) (s : System Order OrderEvent) (id : AggregateId) : Prop where
  numbered : (s.world.events (key id)).map (·.sequence) =
    List.range' 1 (s.world.events (key id)).length
  concatenated : s.world.events (key id) = (log.stream (key id)).values ++
    (History.commitsOn (key id) s.world.history).reverse.flatMap (·.stored)
  /-- Each batch is committed by one call, and each call commits one batch at most. -/
  numbers : ((History.commitsOn (key id) s.world.history).map
    fun h => h.author.map (·.number)).Nodup
  batchIds : ((History.commitsOn (key id) s.world.history).map (·.batchId)).Nodup
  decided : ∀ h ∈ History.commitsOn (key id) s.world.history, ∃ c p V, h.author = some c ∧
    s.calls[c.number]? = some (c, p) ∧ c.id = id ∧ DecidedAt (s.world.events (key id)) c h V

variable {passes : Nat → Prop} {log : EventLog} {s : System Order OrderEvent} {id : AggregateId}

/-- A commit of a call is what its decision emits on the events before it. -/
theorem exists_decidedAt {outsiders : Prop} (hw : (setting passes log outsiders).Inv s.world)
    (hgap : (log.stream (key id)).GapFree) {newer older : List (Commit Order OrderEvent)}
    {h : Commit Order OrderEvent} {c : Caller Order OrderEvent}
    (hsplit : History.commitsOn (key id) s.world.history = newer ++ h :: older)
    (hc : h.author = some c) :
    c.id = id ∧ ∃ V, DecidedAt (s.world.events (key id)) c h V := by
  obtain ⟨t, hacc, hkey, -, htake, hplace⟩ := hw.place hsplit
  have hearned := hacc.call c hc
  have hid : c.id = id := congrArg StreamKey.id (hearned.key.symm.trans hkey)
  obtain ⟨xs, ⟨st, root', hshows, hdecide, rfl⟩, hwrites⟩ := hearned.decided
  rw [hkey, hid, ← htake] at hshows
  rw [hkey, hid] at hdecide
  refine ⟨hid, _, hacc.nonempty, hacc.batch, hplace, _, root', ?_, rfl, hdecide, ?_⟩
  · have hle : ((setting passes log outsiders).eventsAfter (key id) t).length ≤
        (s.world.events (key id)).length := by
      have hlen := congrArg List.length htake
      rw [List.length_take] at hlen
      omega
    rw [hid]
    exact rebuilt_of_shows (hw.gapFree _ hgap) hle hshows
  · refine hwrites.imp fun x e hx => ⟨hx.1, ?_⟩
    exact (Except.ok.inj hx.2).symm

/-- **In every reachable system the stream of an order is serialized.** -/
theorem serialized_of_reachable (hs : System.Reachable (setting passes log False) s)
    (hgap : (log.stream (key id)).GapFree) : Serialized log s id := by
  have hgood := hs.good
  have hw := hgood.inv
  have hcalls : ∀ h ∈ History.commitsOn (key id) s.world.history, ∃ c, h.author = some c := by
    intro h hh
    obtain ⟨newer, older, hsplit⟩ := List.append_of_mem hh
    obtain ⟨t, hacc, -⟩ := hw.place hsplit
    cases hauthor : h.author with
    | none => exact (hacc.outside hauthor).elim
    | some c => exact ⟨c, rfl⟩
  refine ⟨(hw.gapFree _ hgap).numbered, hw.events _ hgap, hw.nodup_numbers hcalls,
    hw.nodup_batchIds hcalls, ?_⟩
  intro h hh
  obtain ⟨newer, older, hsplit⟩ := List.append_of_mem hh
  obtain ⟨c, hc⟩ := hcalls h hh
  obtain ⟨hid, V, hV⟩ := exists_decidedAt hw hgap hsplit hc
  obtain ⟨p, hp⟩ := hgood.call_of_author (List.mem_filter.1 hh).1 hc
  exact ⟨c, p, V, hc, hp, hid, hV⟩

/-- Two clients at once: the first one's batch is refused, so it decides again on the order after
the second one's. -/
theorem serialized_of_contention : ∃ s : System Order OrderEvent,
    System.Reachable (setting (fun _ => True) legacyLog False) s ∧
      (History.commitsOn (key legacyId) s.world.history).length = 2 ∧
      History.conflicts 0 s.world.history = 1 ∧ Serialized legacyLog s legacyId := by
  have hplay : (System.play?
      [part none true legacyId (some (none, .add "X" 1)),
        part (some (.every 1)) false legacyId (some (none, .add "Y" 2))]
      (.initial (setting (fun _ => True) legacyLog False) fun _ => .ofSeconds 60)
      (List.replicate 10 0 ++ List.replicate 20 1 ++ List.replicate 30 0)).any
        (fun s => decide ((History.commitsOn (key legacyId) s.world.history).length = 2 ∧
          History.conflicts 0 s.world.history = 1)) = true := by
    decide +kernel
  obtain ⟨s, hs, -, hfacts⟩ := System.exists_reachable_of_play? (fun p hp i => by
    rcases List.mem_pair.1 hp with rfl | rfl
    · exact admits_part trivial gapFree_legacyLog i
    · exact admits_part trivial gapFree_legacyLog i) hplay
  obtain ⟨hcommits, hconflicts⟩ := of_decide_eq_true hfacts
  exact ⟨s, hs, hcommits, hconflicts, serialized_of_reachable hs gapFree_legacyLog⟩

end EventLedger.Order
