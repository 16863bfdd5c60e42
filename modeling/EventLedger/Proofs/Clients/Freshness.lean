import EventLedger.Proofs.Clients.Missed
import EventLedger.Proofs.Clients.System

/-!
# What a load finds after a commit

A call that has committed a batch has dropped the key from its cache before it ends, and what the
cache keeps under the key from then on was read after the dropping.  So a load that begins later, by
way of the same cache or of none, finds that batch.

## Main results

* `System.Runs.begins` — the moment at which a call began.
* `System.Good.shown_of_committed` — **a load that begins after a committing call has ended finds
  its batch.**
-/

namespace EventLedger.System

variable {σ ε : Type} {T : Setting σ ε} {s s' : System σ ε} {c d : Caller σ ε}

/-- A call that was not there has begun meanwhile. -/
theorem Runs.begins (hs : Good T s) (h : Runs T s s') {j : Nat} {p : StoreCall σ ε (Reply σ ε)}
    (hnone : s.calls[j]? = none) (hj : s'.calls[j]? = some (d, p)) :
    ∃ s₁, Runs T s s₁ ∧ s₁.calls[j]? = some (d, d.program) ∧ Runs T s₁ s' := by
  induction h generalizing p with
  | refl => exact absurd (hnone.symm.trans hj) (by simp)
  | tail hruns hstep ih =>
    rcases hstep.calls_cases (Runs.good hs hruns) hj with ⟨p₀, hold, -⟩ | ⟨-, -, -, rfl, -⟩
    · obtain ⟨s₁, hbefore, hbegun, hafter⟩ := ih hold
      exact ⟨s₁, hbefore, hbegun, hafter.tail hstep⟩
    · exact ⟨_, hruns.tail hstep, hj, .refl⟩

/-- What a load finds that has not asked for anything yet: at least `low` events, if it is certain
to find as many now. -/
theorem Good.shown_of_floor (hs : Good T s) (h : Runs T s s') {j : Nat} {root : Root σ ε}
    (htask : d.task = .load) (hbegun : s.calls[j]? = some (d, d.program))
    (hj : s'.calls[j]? = some (d, .done (.root root))) {low : Nat}
    (hlow : low ≤ Setting.floor d s.world) : T.Shown d low s'.world root := by
  obtain ⟨-, hd, -⟩ := hs.calls j d _ hbegun
  have hkeeps : Call.Keeps (T.discipline d hd)
      (fun w r => ∀ root, r = .ok (.root root) → T.Shown d low w root) d.program s.world := by
    rw [Caller.program, htask]
    refine (Setting.keeps_loadCall hs.inv).bind hs.inv ?_ ?_
    · intro w root _ hroot root' hroot'
      obtain rfl : root = root' := by simpa using hroot'
      obtain ⟨st, V, hroot, hV, hrest⟩ := hroot.2
      exact ⟨st, V, hroot, Nat.le_trans hlow hV, hrest⟩
    · intro w e _ _ root' hroot'
      cases hroot'
  obtain ⟨p, hp, hend⟩ := h.keeps
    (fun w w' r _ hrely hr root hroot => (hr root hroot).later hd hrely.toLater) hs hbegun hkeeps
  obtain rfl : p = .done (.root root) := (Prod.mk.inj (Option.some.inj (hp.symm.trans hj))).2
  exact hend root rfl

/-- **A load that begins after a committing call has ended finds its batch**, by way of the same
cache or of none. -/
theorem Good.shown_of_committed (hs : Good T s) (h : Runs T s s') {i j : Nat}
    {es : List CommittedEvent} {k : Commit σ ε} {root : Root σ ε}
    (hi : s.calls[i]? = some (c, .done (.batch es))) (hk : k ∈ History.commits s.world.history)
    (hauthor : k.author = some c) (hcaching : c.store.caching = true) (htask : d.task = .load)
    (hbegins : s.calls[j]? = none ∨ s.calls[j]? = some (d, d.program)) (hkey : d.key = c.key)
    (hcache : d.store.caching = true → d.cache = c.cache)
    (hj : s'.calls[j]? = some (d, .done (.root root))) :
    es = k.stored ∧ T.Shown d k.stop s'.world root := by
  obtain ⟨-, hc, hended⟩ := hs.calls i c _ hi
  obtain ⟨hes, hmarks⟩ := Setting.Ended.returned hended k hk (by rw [hauthor]; rfl)
  obtain ⟨s₁, hbefore, hbegun, hafter⟩ : ∃ s₁, Runs T s s₁ ∧
      s₁.calls[j]? = some (d, d.program) ∧ Runs T s₁ s' := by
    rcases hbegins with hnone | hbegun
    · exact h.begins hs hnone hj
    · exact ⟨s, .refl, hbegun, h⟩
  have hlater := hbefore.later hs
  have hkkey : k.key = c.key := by
    obtain ⟨n, t, hn, hcommit⟩ := History.exists_note_of_mem_commits hk
    exact ((hs.inv.accounted n t k hn hcommit).call c hauthor).key
  have hfloor : k.stop ≤ Setting.floor d s₁.world := by
    unfold Setting.floor
    split
    next hdcaching =>
      rw [hcache hdcaching, hkey]
      exact Nat.le_trans (hmarks hcaching) (hlater.marks_le c.cache c.key hc.tracked)
    next =>
      rw [hkey]
      exact Nat.le_trans (hkkey ▸ hs.inv.stop_le hk) (hlater.events_length hc.tracked)
  refine ⟨?_, (Runs.good hs hbefore).shown_of_floor hafter htask hbegun hj hfloor⟩
  simpa using hes

end EventLedger.System
