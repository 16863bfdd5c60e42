import EventLedger.Proofs.Clients.Commits
import EventLedger.Proofs.Clients.Recovery
import EventLedger.Proofs.Orders.Setting

/-!
# Commands that are delivered again

Each change of an order may carry a source, by which a command that is delivered again is recognised
in the last batch of the stream.  The check happens when the order is loaded and the commit happens
later; what makes them one is that the commit takes the numbers right after those that were loaded.

A delivery that is refused loads the order again to find the batch that was committed in its place.
It can fail in that if its store spends fewer passes on an event than another one: the order that it
had before may come from a cache which the other store has filled.

## Main definitions

* `Order.AtMostOnce` — what becomes of commands that are delivered again.
* `Order.delivery`, `Order.shortDelivery` — deliveries of one command, for systems to be played.

## Main results

* `Order.atMostOnce_of_reachable` — **in every reachable system commands are carried out once.**
* `Order.unread_after_conflict` — a store with a small bound may miss the batch that won.
-/

namespace EventLedger.Order

/-- What becomes of commands that are delivered again. -/
structure AtMostOnce (T : Setting Order OrderEvent) (s : System Order OrderEvent)
    (id : AggregateId) : Prop where
  /-- The event right before a batch with a source has another source. -/
  apart : ∀ h ∈ History.commitsOn (key id) s.world.history, ∀ c source, h.author = some c →
    c.source = some source → ∀ e ∈ s.world.events (key id), ∀ f, h.stored.head? = some f →
      f.sequence = e.sequence + 1 → e.metadata.sourceId ≠ some source
  /-- After a commit of `a`, as long as no third call commits, neither does a call `b` with the same
  source, nor `a` again. -/
  once : ∀ newer h older a b, History.commitsOn (key id) s.world.history = newer ++ h :: older →
    h.author = some a → a.source ≠ none → b.source = a.source →
    (∀ k ∈ newer, k.author = some a ∨ k.author = some b) →
    newer = [] ∧ ∀ k ∈ older, k.author ≠ some a
  /-- If `b` meets a conflict after the commit of `a`, has a retry left and has not cancelled, it
  yields the batch of that commit unless a third call commits before: it does if it has ended, and
  otherwise it can go on to its end.  A store with a bound below three might fail to read legacy
  events that another one, with a greater bound, has read and cached. -/
  recovered : ∀ (i : Nat) b p h a, s.calls[i]? = some (b, p) → b.key = key id →
    (History.commitsOn (key id) s.world.history).head? = some h →
    h.author = some a → a.source ≠ none → b.source = a.source →
    b.MetAfter h s.world.history → s.world.fired b.number = false →
    (3 ≤ b.store.upgraders.maxPasses ∨ ∀ m, T.bounds m → m ≤ b.store.upgraders.maxPasses) →
    (s.world.events (key id)).length < greatestSequence →
    (∀ r, p = .ofExcept r → r = .ok (.batch h.stored)) ∧
      ∃ s', System.Runs T s s' ∧ s'.calls[i]? = some (b, .done (.batch h.stored))

variable {passes : Nat → Prop} {log : EventLog} {outsiders : Prop} {s : System Order OrderEvent}
  {id : AggregateId} {newer older : List (Commit Order OrderEvent)} {h : Commit Order OrderEvent}

/-- The event right before a batch with a source has another source. -/
theorem sourceId_ne_of_before (hw : (setting passes log outsiders).Inv s.world)
    (hgap : (log.stream (key id)).GapFree)
    (hsplit : History.commitsOn (key id) s.world.history = newer ++ h :: older)
    {c : Caller Order OrderEvent} {source : String} (hc : h.author = some c)
    (hsource : c.source = some source) {e f : CommittedEvent} (he : e ∈ s.world.events (key id))
    (hf : h.stored.head? = some f) (hnext : f.sequence = e.sequence + 1) :
    e.metadata.sourceId ≠ some source := by
  obtain ⟨t, hacc, hkey, -, htake, hplace⟩ := hw.place hsplit
  intro hcarried
  refine (hacc.call c hc).apart ⟨source, e, hsource, ?_, ?_⟩
  · have hplaced : (s.world.events (key id))[
        ((setting passes log outsiders).eventsAfter (key id) t).length]? = some f := by
      rw [← hplace, List.head?_take, List.head?_drop] at hf
      simpa [hacc.nonempty] using hf
    rw [hkey, ← htake]
    exact (hw.gapFree _ hgap).getLast?_take_of_next he hplaced hnext
  · rw [AggregateStore.carries, hcarried]
    exact beq_self_eq_true _

/-- As long as no third call commits, a call with the source of the last commit commits nothing. -/
theorem eq_nil_of_same_source (hw : (setting passes log outsiders).Inv s.world)
    (hsplit : History.commitsOn (key id) s.world.history = newer ++ h :: older)
    {a b : Caller Order OrderEvent} (ha : h.author = some a) (hsource : a.source ≠ none)
    (hsame : b.source = a.source) (hnewer : ∀ k ∈ newer, k.author = some a ∨ k.author = some b) :
    newer = [] := by
  rcases List.eq_nil_or_concat' newer with hnil | ⟨newer', k, rfl⟩
  · exact hnil
  · -- the first commit after `h` would be that of `a` once more, or right after it with its source
    have hsplit' : History.commitsOn (key id) s.world.history = newer' ++ k :: h :: older := by
      rw [hsplit, List.append_assoc]
      rfl
    rcases hnewer k (List.mem_append_right _ List.mem_cons_self) with hk | hk
    · have hne := hw.number_ne hsplit' hk List.mem_cons_self
      rw [ha] at hne
      exact absurd rfl hne
    · exact absurd hsame.symm (hw.apart_of_adjacent hsplit' hk ha (hsame ▸ hsource))

/-- **In every reachable system commands are carried out once.** -/
theorem atMostOnce_of_reachable (hs : System.Reachable (setting passes log outsiders) s)
    (hgap : (log.stream (key id)).GapFree) : AtMostOnce (setting passes log outsiders) s id where
  apart h hh c source hc hsource e he f hf hnext := by
    obtain ⟨newer, older, hsplit⟩ := List.append_of_mem hh
    exact sourceId_ne_of_before hs.good.inv hgap hsplit hc hsource he hf hnext
  once newer h older a b hsplit ha hsource hsame hnewer := by
    refine ⟨eq_nil_of_same_source hs.good.inv hsplit ha hsource hsame hnewer, ?_⟩
    intro k hk hka
    have hne := hs.good.inv.number_ne hsplit ha hk
    rw [hka] at hne
    exact hne rfl
  recovered i b p h a hi hkey hlast ha hsource hsame hmet hlive hpasses hroom := by
    have hh : h ∈ History.commitsOn (key id) s.world.history := List.mem_of_head? hlast
    have hhkey : h.key = key id := by simpa using (List.mem_filter.1 hh).2
    have hthorough : (setting passes log outsiders).Thorough b.store.upgraders.maxPasses := by
      rcases hpasses with hpasses | hpasses
      · exact thorough hpasses
      · exact Setting.thorough_of_le hpasses
    refine hs.good.recovers hi
      { met := hmet, author := ⟨a, ha, hsame.symm⟩, key := hhkey.trans hkey.symm
        source := hsame ▸ hsource, last := ?_, live := hlive, thorough := hthorough, room := ?_ }
    · rw [hkey]
      exact hs.good.inv.stop_of_last hlast
    · rw [hkey]
      exact hroom

/-- One command, delivered to the standard store with some options. -/
def delivery (snapshots : Option SnapshotStrategy) (caching : Bool) : Part Order OrderEvent :=
  part snapshots caching legacyId (some (some "c1", .add "X" 1))

/-- One command is delivered twice at once: the second delivery has just been refused, and it can go
on to yield the batch of the first one. -/
theorem recovered_of_contention : ∃ (s : System Order OrderEvent) (a b : Caller Order OrderEvent)
    (p : StoreCall Order OrderEvent (Reply Order OrderEvent)) (h : Commit Order OrderEvent),
    System.Reachable (setting (fun _ => True) legacyLog False) s ∧
      s.calls[0]? = some (b, p) ∧ h.author = some a ∧ a.number = 1 ∧ a.source = some "c1" ∧
      b.source = some "c1" ∧ b.MetAfter h s.world.history ∧
      AtMostOnce (setting (fun _ => True) legacyLog False) s legacyId ∧
      ∃ s', System.Runs (setting (fun _ => True) legacyLog False) s s' ∧
        s'.calls[0]? = some (b, .done (.batch h.stored)) := by
  let T := setting (fun _ => True) legacyLog False
  have hplay : (System.play? [delivery none false, delivery (some (.every 1)) true]
      (.initial T fun _ => .ofSeconds 60)
      (List.replicate 7 0 ++ List.replicate 20 1 ++ [0])).any (fun s => decide
        (s.isContended (key legacyId) 1 0 (delivery none false).store.config.maxConflictRetries ∧
          s.world.fired 0 = false ∧ s.calls[0]?.isSome ∧
          (s.world.events (key legacyId)).length < greatestSequence)) = true := by
    decide +kernel
  obtain ⟨s, hs, hplays, hfacts⟩ := System.exists_reachable_of_play? (fun p hp i => by
    rcases List.mem_pair.1 hp with rfl | rfl
    · exact admits_part trivial gapFree_legacyLog i
    · exact admits_part trivial gapFree_legacyLog i) hplay
  obtain ⟨hcontended, hfired, hb, hroom⟩ := of_decide_eq_true hfacts
  obtain ⟨⟨b, p⟩, hb⟩ := Option.isSome_iff_exists.1 hb
  obtain rfl := hplays.caller_eq rfl hb
  obtain ⟨h, hlast, ha, hmet⟩ := hplays.exists_met hs rfl hcontended
  have honce : AtMostOnce T s legacyId := atMostOnce_of_reachable hs gapFree_legacyLog
  have hsource : ((delivery (some (.every 1)) true).caller 1).source ≠ none :=
    Option.some_ne_none "c1"
  have hrecovered := honce.recovered 0 _ p h _ hb rfl hlast ha hsource rfl hmet hfired
    (.inl (by decide)) hroom
  exact ⟨s, _, _, p, h, hs, hb, ha, rfl, rfl, rfl, hmet, honce, hrecovered.2⟩

/-- The same command, delivered to a store that caches and gives an event up after two passes. -/
def shortDelivery : Part Order OrderEvent :=
  { delivery none true with store := { OrderStore.upgrading 2 with caching := true } }

theorem admits_shortDelivery (number : Nat) :
    (setting (fun _ => True) legacyLog False).Admits (shortDelivery.caller number) := by
  have hfits : (setting (fun _ => True) legacyLog False).Fits shortDelivery.store :=
    ⟨rfl, rfl, rfl, Nat.two_pos, trivial⟩
  have hcommand : shortDelivery.change =
      (some (some "c1", OrderCommand.add "X" 1)).map fun c => (c.1, c.2.decide) := rfl
  exact admits_of_command hfits gapFree_legacyLog hcommand number

/-- One command is delivered twice at once, the second time to a store that has the order from the
cache and would itself give its legacy event up.  Once it is refused it has to read that event, so
not every delivery that is refused yields the batch that won. -/
theorem unread_after_conflict : ¬ ∀ (s : System Order OrderEvent) (i : Nat)
    (a b : Caller Order OrderEvent) (p : StoreCall Order OrderEvent (Reply Order OrderEvent))
    (h : Commit Order OrderEvent), System.Reachable (setting (fun _ => True) legacyLog False) s →
    s.calls[i]? = some (b, p) → b.key = key legacyId →
    (History.commitsOn (key legacyId) s.world.history).head? = some h → h.author = some a →
    a.source ≠ none → b.source = a.source → b.MetAfter h s.world.history →
    s.world.fired b.number = false →
    (s.world.events (key legacyId)).length < greatestSequence →
    ∀ r, p = .ofExcept r → r = .ok (.batch h.stored) := by
  intro hrecovered
  let T := setting (fun _ => True) legacyLog False
  -- the first update is refused, and leaves the order in the cache
  have hplay : (System.play? [part none true legacyId (some (none, .remove "Y")), shortDelivery,
      delivery none false] (.initial T fun _ => .ofSeconds 60)
      (List.replicate 20 0 ++ List.replicate 6 1 ++ List.replicate 30 2 ++
        List.replicate 40 1)).any (fun s => decide
        (s.isContended (key legacyId) 2 1 shortDelivery.store.config.maxConflictRetries ∧
          s.world.fired 1 = false ∧ (s.failure? 1).isSome ∧
          (s.world.events (key legacyId)).length < greatestSequence)) = true := by
    decide +kernel
  obtain ⟨s, hs, hplays, hfacts⟩ := System.exists_reachable_of_play? (fun p hp i => by
    simp only [List.mem_cons, List.not_mem_nil, or_false] at hp
    rcases hp with rfl | rfl | rfl
    · exact admits_part trivial gapFree_legacyLog i
    · exact admits_shortDelivery i
    · exact admits_part trivial gapFree_legacyLog i) hplay
  obtain ⟨hcontended, hfired, hfailed, hroom⟩ := of_decide_eq_true hfacts
  obtain ⟨e, he⟩ := Option.isSome_iff_exists.1 hfailed
  obtain ⟨b, hb⟩ := System.exists_call_of_failure? he
  obtain rfl := hplays.caller_eq rfl hb
  obtain ⟨h, hlast, ha, hmet⟩ := hplays.exists_met hs rfl hcontended
  have hsource : ((delivery none false).caller 2).source ≠ none := Option.some_ne_none "c1"
  have hbatch := hrecovered s 1 _ _ _ h hs hb rfl hlast ha hsource rfl hmet hfired hroom (.error e)
    rfl
  cases hbatch

end EventLedger.Order
