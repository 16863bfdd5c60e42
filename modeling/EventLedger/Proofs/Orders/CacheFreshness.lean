import EventLedger.Proofs.Clients.Freshness
import EventLedger.Proofs.Orders.Setting

/-!
# Caches of orders are fresh after a commit

Stores that share a cache read their own writes: once an update through one of them has committed a
batch and has ended, every load through any of them that begins afterwards finds that batch.  Others
may commit without the cache, and it may be cleared and its streams may expire at any time.

An update that recognises its source in a batch that is stored already ends without committing, and
without dropping the order from the cache.  The cache may then still hold an older stream, if the
batch was committed by a store that does not share it.

## Main results

* `Order.load_fresh_of_committed` — **a load after an update that committed finds its batch.**
* `Order.stale_after_recognised` — a load after an update that recognised a batch may not.
-/

namespace EventLedger.Order

variable {passes : Nat → Prop} {log : EventLog} {outsiders : Prop} {s s' : System Order OrderEvent}
  {c d : Caller Order OrderEvent} {h : Commit Order OrderEvent} {es : List CommittedEvent}
  {root : OrderRoot} {i j : Nat}

/-- **A load after an update that committed finds its batch.**  The update `c` uses a cache, has
committed the batch of `h` and has ended with `es`; the load `d` of the same order uses the same
cache or none, has not yet asked for anything at that moment, and ends with `root`. -/
theorem load_fresh_of_committed (hs : System.Reachable (setting passes log outsiders) s)
    (hruns : System.Runs (setting passes log outsiders) s s')
    (hi : s.calls[i]? = some (c, .done (.batch es))) (hh : h ∈ History.commits s.world.history)
    (hauthor : h.author = some c)
    (hbegins : s.calls[j]? = none ∨ s.calls[j]? = some (d, d.program))
    (hj : s'.calls[j]? = some (d, .done (.root root))) (hcaching : c.store.caching = true)
    (htask : d.task = .load) (hkey : d.key = c.key)
    (hcache : d.store.caching = true → d.cache = c.cache) :
    es = h.stored ∧ h.stop ≤ root.version ∧
      root.version ≤ (s'.world.events d.key).length ∧
      rebuilt d.id ((s'.world.events d.key).take root.version) = .ok root := by
  obtain ⟨hes, hshown⟩ := hs.good.shown_of_committed hruns hi hh hauthor hcaching htask hbegins hkey
    hcache hj
  obtain ⟨st, V, rfl, hlow, hV, hshows⟩ := hshown
  have hgood := System.Runs.good hs.good hruns
  obtain ⟨-, hd, -⟩ := hgood.calls j d _ hj
  exact ⟨hes, hlow, hV, rebuilt_of_shows (hgood.inv.gapFree _ hd.tracked) hV hshows⟩

/-- Calls of an order by way of a cache, and one that bypasses it. -/
def cacheParts : List (Part Order OrderEvent) :=
  [part (some (.every 1)) true legacyId (some (some "c1", .add "X" 1)),
    part (some (.every 1)) true legacyId none,
    part none false legacyId (some (some "c2", .add "Y" 1)),
    part (some (.every 1)) true legacyId (some (some "c2", .add "Y" 1)),
    part (some (.every 1)) true legacyId none]

theorem admits_cacheParts : ∀ p ∈ cacheParts, ∀ i,
    (setting (· = 16) .empty False).Admits (p.caller i) := by
  have hgap : (EventLog.empty.stream (key legacyId)).GapFree := Stream.gapFree_empty
  intro p hp i
  simp only [cacheParts, List.mem_cons, List.not_mem_nil, or_false] at hp
  rcases hp with rfl | rfl | rfl | rfl | rfl <;> exact admits_part (by rfl) hgap i

/-- An order is added to by way of a cache, and then it is loaded. -/
theorem load_fresh_of_added : ∃ (s s' : System Order OrderEvent) (c d : Caller Order OrderEvent)
    (h : Commit Order OrderEvent) (es : List CommittedEvent) (root : OrderRoot),
    System.Reachable (setting (· = 16) .empty False) s ∧
      System.Runs (setting (· = 16) .empty False) s s' ∧
      s.calls[0]? = some (c, .done (.batch es)) ∧ h.author = some c ∧ s.calls[1]? = none ∧
      s'.calls[1]? = some (d, .done (.root root)) ∧ es = h.stored ∧ h.stop = 1 ∧
      h.stop ≤ root.version := by
  have hplay : (System.play? cacheParts
      (.initial (setting (· = 16) .empty False) fun _ => .ofSeconds 60)
      (List.replicate 20 0)).any (fun s =>
        decide ((s.yielded? 0).bind (·.numbers?) = some [1] ∧ s.calls.length = 1 ∧
          (History.commits s.world.history).map (fun h => (h.author.map (·.number), h.stop)) =
            [(some 0, 1)]) &&
        (System.play? cacheParts s (List.replicate 20 1)).any fun s' =>
          decide ((s'.yielded? 1).bind (·.version?) = some 1)) = true := by
    decide +kernel
  obtain ⟨s, hs, hplays, hfacts⟩ := System.exists_reachable_of_play? admits_cacheParts hplay
  obtain ⟨hfacts, hplay'⟩ := Bool.and_eq_true_iff.1 hfacts
  obtain ⟨hnumbers, hlength, hcommits⟩ := of_decide_eq_true hfacts
  obtain ⟨s', hruns, hplays', hversion⟩ :=
    System.exists_runs_of_play? admits_cacheParts hplays hplay'
  obtain ⟨c, es, hc, -⟩ := System.exists_call_of_numbers? hnumbers
  obtain ⟨d, root, hd, -⟩ := System.exists_call_of_version? (of_decide_eq_true hversion)
  obtain ⟨h, hcommits, hcommit⟩ := List.map_eq_singleton_iff.1 hcommits
  have hh : h ∈ History.commits s.world.history := hcommits ▸ List.mem_singleton_self h
  obtain ⟨hnumber, hstop⟩ := Prod.mk.inj hcommit
  obtain ⟨a, ha, hanumber⟩ := Option.map_eq_some_iff.1 hnumber
  obtain ⟨p, hp⟩ := hs.good.call_of_author hh ha
  obtain rfl : c = a := (Prod.mk.inj (Option.some.inj (hc.symm.trans (hanumber ▸ hp)))).1
  obtain rfl := hplays.caller_eq rfl hc
  obtain rfl := hplays'.caller_eq rfl hd
  have hbegins : s.calls[1]? = none := List.getElem?_eq_none_iff.2 (Nat.le_of_eq hlength)
  obtain ⟨hes, hle, -⟩ := load_fresh_of_committed hs hruns hc hh ha (.inl hbegins) hd rfl rfl rfl
    fun _ => rfl
  exact ⟨s, s', _, _, h, es, root, hs, hruns, hc, ha, hbegins, hd, hes, hstop, hle⟩

/-- An update that recognises its source in a batch that was committed without the cache leaves an
older stream in the cache, so not every update that ends with a batch makes later loads find it. -/
theorem stale_after_recognised : ¬ ∀ (s s' : System Order OrderEvent) (i j : Nat)
    (c d : Caller Order OrderEvent) (es : List CommittedEvent) (root : OrderRoot),
    System.Reachable (setting (· = 16) .empty False) s →
    System.Runs (setting (· = 16) .empty False) s s' →
    s.calls[i]? = some (c, .done (.batch es)) → es ≠ [] →
    (s.calls[j]? = none ∨ s.calls[j]? = some (d, d.program)) →
    s'.calls[j]? = some (d, .done (.root root)) → c.store.caching = true → d.task = .load →
    d.key = c.key → d.store.caching = true → d.cache = c.cache →
    ∀ e ∈ es, e.sequence ≤ root.version := by
  intro hfresh
  have hplay : (System.play? cacheParts
      (.initial (setting (· = 16) .empty False) fun _ => .ofSeconds 60)
      (List.replicate 20 0 ++ List.replicate 20 1 ++ List.replicate 20 2 ++
        List.replicate 20 3)).any (fun s =>
        decide ((s.yielded? 3).bind (·.numbers?) = some [2] ∧ s.calls.length = 4) &&
        (System.play? cacheParts s (List.replicate 20 4)).any fun s' =>
          decide ((s'.yielded? 4).bind (·.version?) = some 1)) = true := by
    decide +kernel
  obtain ⟨s, hs, hplays, hfacts⟩ := System.exists_reachable_of_play? admits_cacheParts hplay
  obtain ⟨hfacts, hplay'⟩ := Bool.and_eq_true_iff.1 hfacts
  obtain ⟨hnumbers, hlength⟩ := of_decide_eq_true hfacts
  obtain ⟨s', hruns, hplays', hversion⟩ :=
    System.exists_runs_of_play? admits_cacheParts hplays hplay'
  obtain ⟨c, es, hc, hes⟩ := System.exists_call_of_numbers? hnumbers
  obtain ⟨d, root, hd, hroot⟩ := System.exists_call_of_version? (of_decide_eq_true hversion)
  obtain rfl := hplays.caller_eq rfl hc
  obtain rfl := hplays'.caller_eq rfl hd
  obtain ⟨e, rfl, he⟩ := List.map_eq_singleton_iff.1 hes
  have hbegins : s.calls[4]? = none := List.getElem?_eq_none_iff.2 (Nat.le_of_eq hlength)
  have hle := hfresh s s' 3 4 _ _ [e] root hs hruns hc (List.cons_ne_nil _ _) (.inl hbegins) hd
    rfl rfl rfl rfl rfl e List.mem_cons_self
  omega

end EventLedger.Order
