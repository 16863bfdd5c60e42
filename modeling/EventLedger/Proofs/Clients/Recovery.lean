import EventLedger.Proofs.Clients.System

/-!
# Recovering from a conflict

A call that would miss a commit is never stuck: until it has ended it makes only requests that have
an answer, and then it yields the batch of that commit.

## Main results

* `Setting.Missed.exists_serves` — what is asked meanwhile has an answer.
* `System.Good.recovers` — **a call yields the batch that it would have missed.**
-/

namespace EventLedger

variable {σ ε : Type}

namespace Setting

variable {T : Setting σ ε} {c : Caller σ ε} {w w' : World σ ε} {h : Commit σ ε}

/-- What is missed is missed after any request that stores no event. -/
theorem Missed.noted (hm : T.Missed c w h) (hhistory : w'.history = w.history)
    (hlog : w'.log = w.log) (hfired : w'.fired = w.fired) (n : Note σ ε) :
    T.Missed c (w'.noted n) h where
  met := hm.met.of_suffix (hhistory ▸ List.suffix_cons n _)
  author := hm.author
  key := hm.key
  source := hm.source
  last := by
    rw [hm.last, World.events, World.events, World.noted, hlog]
  live := by rw [← hm.live, World.noted, hfired]
  thorough := hm.thorough
  room := by
    rw [World.events, World.noted, hlog]
    exact hm.room

/-- **What a call asks while it would miss a commit has an answer**, and the commit remains one that
it would miss. -/
theorem Missed.exists_serves (hm : T.Missed c w h) {q : StoreRequest σ ε} (hq : T.Permits c w q) :
    ∃ a w', w.serves c q a w' ∧ T.Missed c w' h := by
  have hserves : ∀ {a w₁}, w.answers c q a w₁ → w₁.history = w.history → w₁.log = w.log →
      w₁.fired = w.fired → ∃ a w', w.serves c q a w' ∧ T.Missed c w' h :=
    fun ha hhistory hlog hfired => ⟨_, _, ⟨_, ha, rfl⟩, hm.noted hhistory hlog hfired _⟩
  cases q with
  | storage q =>
    cases q with
    | commit key b ps => exact absurd hm (hq.2.2.2.2 h)
    | load key start => exact hserves (World.answersStorage_load.2 ⟨rfl, rfl⟩) rfl rfl rfl
    | loadSnapshot key => exact hserves (a := .ok none) ⟨trivial, rfl⟩ rfl rfl rfl
    | storeSnapshot s => exact hserves (a := .ok ()) rfl rfl rfl rfl
    | page => exact hq.elim
    | delete => exact hq.elim
    | deleteSnapshots => exact hq.elim
  | cached key => exact hserves ⟨⟨0, 0⟩, rfl, rfl⟩ rfl rfl rfl
  | generation key => exact hserves ⟨rfl, rfl⟩ rfl rfl rfl
  | keep key g l => exact hserves ⟨⟨0, 0⟩, rfl, rfl⟩ rfl rfl rfl
  | invalidate key => exact hserves (a := ()) rfl rfl rfl rfl
  | readState state => exact hserves ⟨rfl, rfl⟩ rfl rfl rfl
  | isCancelled => exact hserves ⟨rfl, rfl⟩ rfl rfl rfl
  | pause d => exact hserves (a := false) ⟨fun htrue => (by cases htrue), rfl⟩ rfl rfl rfl
  | now => exact hserves (a := ⟨0, 0⟩) rfl rfl rfl rfl
  | roll => exact hserves (a := .zero false) rfl rfl rfl rfl
  | freshId => exact absurd hm (hq h)
  | decide root => exact absurd hm (hq h)

end Setting

namespace System

variable {T : Setting σ ε} {s : System σ ε} {c : Caller σ ε} {h : Commit σ ε}

/-- **A call yields the batch that it would have missed**: it does if it has ended, and otherwise it
can go on to its end. -/
theorem Good.recovers (hs : Good T s) {i : Nat} {p : StoreCall σ ε (Reply σ ε)}
    (hi : s.calls[i]? = some (c, p)) (hm : T.Missed c s.world h) :
    (∀ r, p = .ofExcept r → r = .ok (.batch h.stored)) ∧
      ∃ s', Runs T s s' ∧ s'.calls[i]? = some (c, .done (.batch h.stored)) := by
  obtain ⟨-, hc, hkeeps⟩ := hs.calls i c p hi
  constructor
  · rintro r rfl
    cases r with
    | ok reply => exact hkeeps.missed h hm
    | error e => exact hkeeps.missed h hm
  · have hrefl : ∀ w, T.Inv w → T.Rely c w w := fun w _ => .refl w
    obtain ⟨r, w, hrun, hm'⟩ := hkeeps.exists_runsTo (P := fun w => T.Missed c w h) hrefl
      (fun _ _ _ hm hq => hm.exists_serves hq) hs.inv hm
    obtain rfl := (hkeeps.of_runsTo hrefl hrun hs.inv).2.missed h hm'
    exact ⟨_, .of_runsTo hi hrun, List.getElem?_set_self (List.getElem?_eq_some_iff.1 hi).1⟩

end System

end EventLedger
