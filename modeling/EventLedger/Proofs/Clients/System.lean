import EventLedger.Proofs.Clients.Updating
import Mathlib.Logic.Relation

/-!
# Systems of clients

Any number of calls, each begun at any time, whose requests are answered one at a time in any order.
Meanwhile clients cancel, caches are cleared, and, if the setting has outsiders, batches are
committed at the next numbers of a stream by others than stores.

## Main definitions

* `System`, `System.Step`, `System.Runs`, `System.Reachable` — systems and their runs.
* `Setting.Ended` — what is known once a call has ended.
* `System.Good` — the invariant of systems.

## Main results

* `System.Step.good`, `System.Reachable.good` — **every reachable system is good.**
* `System.Runs.keeps` — what a call that goes on will have established at its end.
* `System.Runs.of_runsTo` — a call may be run to its end while the others rest.
-/

namespace EventLedger

variable {σ ε : Type}

/-- The world and the calls, each as far as it has got. -/
structure System (σ ε : Type) where
  /-- The world. -/
  world : World σ ε
  /-- The calls in the order in which they began. -/
  calls : List (Caller σ ε × StoreCall σ ε (Reply σ ε))

namespace System

/-- The system at the beginning: no calls, and caches that are empty. -/
def initial (T : Setting σ ε) (ttl : Nat → Duration) : System σ ε where
  world :=
    { log := T.log
      caches := fun i => .empty (ttl i)
      marks := fun _ _ => 0
      fired := fun _ => false
      history := [] }
  calls := []

/-- One step of a system. -/
inductive Step (T : Setting σ ε) : System σ ε → System σ ε → Prop
  /-- A call begins. -/
  | start {s : System σ ε} {c : Caller σ ε} : T.Admits c → c.number = s.calls.length →
      Step T s { s with calls := s.calls ++ [(c, c.program)] }
  /-- A request of a call is answered. -/
  | answer {s : System σ ε} {i : Nat} {c : Caller σ ε} {q : StoreRequest σ ε}
      {next : q.Answer → StoreCall σ ε (Reply σ ε)} {a : q.Answer} {w : World σ ε} :
      s.calls[i]? = some (c, .waiting q next) → s.world.serves c q a w →
      Step T s ⟨w, s.calls.set i (c, next a)⟩
  /-- The client of a call cancels. -/
  | cancel {s : System σ ε} (number : Nat) :
      Step T s { s with
        world := { s.world with fired := Function.update s.world.fired number true } }
  /-- A cache is cleared. -/
  | clear {s : System σ ε} (i : Nat) :
      Step T s { s with world := s.world.withCache i (s.world.caches i).clear }
  /-- An outsider commits a batch at the next numbers, under an identifier that no call was given.
  -/
  | outside {s : System σ ε} {key : StreamKey} {b : Uuid} {ps : List PendingEvent}
      {stored : List CommittedEvent} : T.outsiders → T.Tracked key →
      (∀ p ∈ History.issued s.world.history, p.2 ≠ b) →
      ps.head?.map (·.sequence) = some ((s.world.events key).length + 1) →
      (s.world.log.commit key b ps).1 = .ok stored →
      Step T s { s with
        world := World.noted { s.world with log := (s.world.log.commit key b ps).2 }
          ⟨none, .storage (.commit key b ps), .ok stored⟩ }

/-- The later systems. -/
abbrev Runs (T : Setting σ ε) : System σ ε → System σ ε → Prop := Relation.ReflTransGen (Step T)

/-- The systems that come to be. -/
def Reachable (T : Setting σ ε) (s : System σ ε) : Prop := ∃ ttl, Runs T (initial T ttl) s

end System

/-! ### Loading as a whole -/

namespace Setting

variable {T : Setting σ ε} {c : Caller σ ε} {w w' w'' : World σ ε} {hc : T.Admits c}

/-- The aggregate is what the first `V` events show, for some `V` that is at least `low`. -/
def Shown (T : Setting σ ε) (c : Caller σ ε) (low : Nat) (w : World σ ε) (root : Root σ ε) : Prop :=
  ∃ st V, root = ⟨c.id, st, V, []⟩ ∧ low ≤ V ∧ V ≤ (w.events c.key).length ∧
    T.Shows c.id ((w.events c.key).take V) st

theorem Shown.later {low : Nat} {root : Root σ ε} (hc : T.Admits c) (h : T.Shown c low w root)
    (hle : T.Later w w') : T.Shown c low w' root := by
  obtain ⟨st, V, hroot, hlow, hV, hshows⟩ := h
  refine ⟨st, V, hroot, hlow, Nat.le_trans hV (hle.events_length hc.tracked), ?_⟩
  rwa [hle.take_events hc.tracked hV]

/-- **What a load yields.** -/
theorem keeps_loadCall (hw : T.Inv w) :
    Call.Keeps (T.discipline c hc)
      (T.Ends c w (T.Shown c (floor c w)) (T.LoadFails c (floor c w))) (c.store.load c.id) w := by
  refine keeps_seq hw (keeps_loadRoot hw) ?_ fun _ _ _ h => h
  intro w₁ r _ hr
  obtain ⟨st, hroot, hshows⟩ := hr.shown
  exact keeps_done ⟨st, r.2.version, hroot, hr.low_le, hr.genuine.version_le, hshows⟩

/-- What is known once a call has ended. -/
structure Ended (T : Setting σ ε) (c : Caller σ ε) (w : World σ ε)
    (r : Except Error (Reply σ ε)) : Prop where
  shown : ∀ root, r = .ok (.root root) → T.Shown c 0 w root
  /-- If it committed a batch, it yields that, and its cache holds nothing older. -/
  returned : ∀ h ∈ History.commits w.history, h.author.map (·.number) = some c.number →
    r = .ok (.batch h.stored) ∧ (c.store.caching = true → h.stop ≤ w.marks c.cache c.key)
  /-- If it would have missed a batch, it yields that. -/
  missed : ∀ h, T.Missed c w h → r = .ok (.batch h.stored)

/-- What the others do changes nothing of what is known of a call that has ended. -/
theorem Ended.later {r : Except Error (Reply σ ε)} (hw : T.Inv w) (hc : T.Admits c)
    (h : T.Ended c w r) (hle : T.Rely c w w') : T.Ended c w' r where
  shown root hroot := (h.shown root hroot).later hc hle.toLater
  returned k hk hnumber := by
    obtain ⟨hr, hmarks⟩ := h.returned k (hle.since.own_commit hk hnumber) hnumber
    exact ⟨hr, fun hcaching =>
      Nat.le_trans (hmarks hcaching) (hle.marks_le c.cache c.key hc.tracked)⟩
  missed k hk := h.missed k (hk.of_since hc hw hle.since)

/-- **What is known once a call has ended**, if it begins now. -/
theorem keeps_program (hw : T.Inv w) (hnew : ∀ n ∈ w.history, n.number ≠ some c.number) :
    Call.Keeps (T.discipline c hc) (T.Ended c) c.program w := by
  have hno : NoCommit c w := by
    intro h hh hnumber
    obtain ⟨n, hn, hcommit⟩ := List.mem_filterMap.1 hh
    rw [Note.author_of_commit? hcommit] at hnumber
    exact hnew n hn hnumber
  unfold Caller.program
  split
  next htask =>
    have hsource : c.source = none := by rw [Caller.source, htask]
    have hended : ∀ w' r, T.Since c w w' →
        (∀ root, r = .ok (.root root) → T.Shown c 0 w' root) → T.Ended c w' r :=
      fun w' r hs hshown => ⟨hshown, fun h hh hnumber => absurd hnumber (hno.since hs h hh),
        fun h hm => absurd hsource hm.source⟩
    refine keeps_then hw (keeps_loadCall hw) ?_ ?_
    · intro w₁ root h₁ hroot
      refine hended w₁ _ h₁.toSince ?_
      intro root' hroot'
      obtain rfl : root = root' := by simpa using hroot'
      obtain ⟨st, V, hroot, -, hV⟩ := hroot
      exact ⟨st, V, hroot, Nat.zero_le V, hV⟩
    · intro w₁ e h₁ _
      exact hended w₁ _ h₁.toSince (by simp)
  next source _ htask =>
    have hsource : c.source = source := by rw [Caller.source, htask]
    rw [← hsource]
    refine (keeps_update hw hnew).bind hw ?_ ?_
    · intro w₁ batch _ hr
      refine ⟨by simp, ?_, ?_⟩
      · intro h hh hnumber
        obtain ⟨hbatch, hmarks⟩ := hr.returned h hh hnumber
        obtain rfl := Except.ok.inj hbatch
        exact ⟨rfl, hmarks⟩
      · intro h hm
        obtain rfl := Except.ok.inj (hr.missed h hm)
        rfl
    · intro w₁ e _ hr
      refine ⟨by simp, ?_, ?_⟩
      · intro h hh hnumber
        cases (hr.returned h hh hnumber).1
      · intro h hm
        cases hr.missed h hm

/-! ### What others than calls do -/

theorem Inv.cancel (hw : T.Inv w) (number : Nat) :
    T.Inv { w with fired := Function.update w.fired number true } :=
  { gapFree := hw.gapFree, events := hw.events, accounted := hw.accounted, stamped := hw.stamped,
    marks_le := hw.marks_le, cached := hw.cached, offered := hw.offered, issued := hw.issued,
    owned := hw.owned }

theorem Later.cancel (w : World σ ε) (number : Nat) :
    T.Later w { w with fired := Function.update w.fired number true } :=
  { Later.refl w with
    fired := by
      intro k hk
      simp only [Function.update_apply]
      split
      · rfl
      · exact hk }

/-- A batch of an outsider at the next numbers keeps the invariant. -/
theorem Inv.outside {key : StreamKey} {b : Uuid} {ps : List PendingEvent}
    {stored : List CommittedEvent} (hw : T.Inv w) (hout : T.outsiders) (hk : T.Tracked key)
    (hb : ∀ p ∈ History.issued w.history, p.2 ≠ b)
    (hfirst : ps.head?.map (·.sequence) = some ((w.events key).length + 1))
    (hok : (w.log.commit key b ps).1 = .ok stored) :
    T.Inv (World.noted { w with log := (w.log.commit key b ps).2 }
        ⟨none, .storage (.commit key b ps), .ok stored⟩) ∧
      T.Later w (World.noted { w with log := (w.log.commit key b ps).2 }
        ⟨none, .storage (.commit key b ps), .ok stored⟩) := by
  obtain ⟨p, rest, rfl, -, hnumbered⟩ := EventLog.numbered_of_commit hok
  obtain hp : p.sequence = (w.events key).length + 1 := by simpa using hfirst
  rw [hp] at hnumbered
  rcases EventLog.commit_ok (hw.gapFree key hk) hnumbered (Nat.le_refl _) hok with
    ⟨-, hstored, hlog⟩ | ⟨hlt, -⟩
  · have hes : stored.map (·.sequence) =
        List.range' ((w.events key).length + 1) stored.length := by
      rw [hstored, EventLog.map_sequence_number, EventLog.length_number, hnumbered]
    have hacc : T.Accounted w.history (σ := σ) ⟨none, key, b, stored⟩ :=
      { tracked := hk
        nonempty := by rw [hstored]; exact List.cons_ne_nil _ _
        batch := fun e he => (EventLog.mem_number (hstored ▸ he)).1
        outside := fun _ => hout
        call := fun c hc => by cases hc }
    rw [hlog]
    exact ⟨hw.append rfl hes hacc fun p hp heq => absurd heq (hb p hp),
      (Later.appended hw hes).trans (.noted _ _)⟩
  · exact absurd hlt (Nat.lt_irrefl _)

end Setting

/-! ### Good systems -/

namespace System

variable {T : Setting σ ε} {s s' : System σ ε}

/-- What holds of a system at every moment. -/
structure Good (T : Setting σ ε) (s : System σ ε) : Prop where
  inv : T.Inv s.world
  /-- The author of a note is a call of the system. -/
  authors : ∀ n ∈ s.world.history, ∀ c, n.author = some c → ∃ p, s.calls[c.number]? = some (c, p)
  /-- A call goes on as it should, whatever the others do. -/
  calls : ∀ (i : Nat) c p, s.calls[i]? = some (c, p) → c.number = i ∧
    ∃ hc : T.Admits c, Call.Keeps (T.discipline c hc) (T.Ended c) p s.world

/-- The author of a commit is a call of the system. -/
theorem Good.call_of_author (hs : Good T s) {h : Commit σ ε} {c : Caller σ ε}
    (hh : h ∈ History.commits s.world.history) (hc : h.author = some c) :
    ∃ p, s.calls[c.number]? = some (c, p) := by
  obtain ⟨n, hn, hcommit⟩ := List.mem_filterMap.1 hh
  exact hs.authors n hn c ((Note.author_of_commit? hcommit).symm.trans hc)

/-- What a step does to a call: nothing that it may not rely on, or an answer to its request. -/
def Goes (T : Setting σ ε) (c : Caller σ ε) (p p' : StoreCall σ ε (Reply σ ε)) (w w' : World σ ε) :
    Prop :=
  (p' = p ∧ T.Rely c w w') ∨
    ∃ q next a, p = .waiting q next ∧ p' = next a ∧ w.serves c q a w'

theorem Goes.keeps {c : Caller σ ε} {hc : T.Admits c} {p p' : StoreCall σ ε (Reply σ ε)}
    {w w' : World σ ε} {post : World σ ε → Except Error (Reply σ ε) → Prop}
    (hpost : ∀ r, T.Rely c w w' → post w r → post w' r) (hw : T.Inv w)
    (h : Goes T c p p' w w') (hp : Call.Keeps (T.discipline c hc) post p w) :
    Call.Keeps (T.discipline c hc) post p' w' := by
  rcases h with ⟨rfl, hrely⟩ | ⟨q, next, a, rfl, rfl, hserves⟩
  · exact hp.of_rely (fun {r} => hpost r hrely) hrely
  · exact (hp w (.refl w) hw).2 a w' hserves

/-- **What a step does to the world and to each call.** -/
theorem Step.effect (hs : Good T s) (h : Step T s s') :
    T.Inv s'.world ∧ T.Later s.world s'.world ∧
      ∀ (i : Nat) c p, s.calls[i]? = some (c, p) →
        ∃ p', s'.calls[i]? = some (c, p') ∧ Goes T c p p' s.world s'.world := by
  cases h with
  | start hc hnumber =>
    refine ⟨hs.inv, .refl _, fun i c p hi => ⟨p, ?_, .inl ⟨rfl, .refl _⟩⟩⟩
    rw [List.getElem?_append_left (List.getElem?_eq_some_iff.1 hi).1]
    exact hi
  | @answer j d q next a w hj hserves =>
    obtain ⟨hnumber, hd, hkeeps⟩ := hs.calls j d _ hj
    have hq := (hkeeps s.world (.refl _) hs.inv).1
    obtain ⟨hw, hlater, -⟩ := hs.inv.serves hd hq hserves
    refine ⟨hw, hlater, ?_⟩
    intro i c p hi
    by_cases hij : j = i
    · subst hij
      obtain ⟨rfl, rfl⟩ := Prod.mk.inj (Option.some.inj (hi.symm.trans hj))
      exact ⟨next a, List.getElem?_set_self (List.getElem?_eq_some_iff.1 hi).1,
        .inr ⟨q, next, a, rfl, rfl, hserves⟩⟩
    · have hne : d.number ≠ c.number := by
        rw [hnumber, (hs.calls i c p hi).1]
        exact hij
      exact ⟨p, by rw [List.getElem?_set_ne hij]; exact hi,
        .inl ⟨rfl, .of_serves hs.inv hd hne hq hserves⟩⟩
  | cancel number =>
    exact ⟨hs.inv.cancel number, .cancel _ number,
      fun i c p hi => ⟨p, hi, .inl ⟨rfl, .cancel _ number, [], rfl, by simp⟩⟩⟩
  | clear i =>
    exact ⟨hs.inv.clear, .clear hs.inv,
      fun j c p hj => ⟨p, hj, .inl ⟨rfl, .clear hs.inv, [], rfl, by simp⟩⟩⟩
  | outside hout hk hb hfirst hok =>
    obtain ⟨hw, hlater⟩ := hs.inv.outside hout hk hb hfirst hok
    refine ⟨hw, hlater, fun i c p hi => ⟨p, hi, .inl ⟨rfl, hlater, [_], rfl, ?_⟩⟩⟩
    intro n hn
    obtain rfl := List.mem_singleton.1 hn
    exact fun heq => by cases heq

/-- The author of a note is a call of the system after the step as well. -/
theorem Step.authors (hs : Good T s) (h : Step T s s') :
    ∀ n ∈ s'.world.history, ∀ c, n.author = some c → ∃ p, s'.calls[c.number]? = some (c, p) := by
  have hgoes : ∀ (i : Nat) c p, s.calls[i]? = some (c, p) → ∃ p', s'.calls[i]? = some (c, p') :=
    fun i c p hi => ((h.effect hs).2.2 i c p hi).imp fun _ hp => hp.1
  have hold : ∀ n ∈ s.world.history, ∀ c, n.author = some c →
      ∃ p, s'.calls[c.number]? = some (c, p) := by
    intro n hn c hc
    obtain ⟨p, hp⟩ := hs.authors n hn c hc
    exact hgoes _ c p hp
  cases h with
  | start hc hnumber => exact hold
  | @answer j d q next a w hj hserves =>
    obtain ⟨hnumber, hd, hkeeps⟩ := hs.calls j d _ hj
    obtain ⟨-, -, hhistory⟩ :=
      hs.inv.serves hd (hkeeps s.world (.refl _) hs.inv).1 hserves
    intro n hn c hc
    rcases List.mem_cons.1 (hhistory ▸ hn) with rfl | hn
    · obtain rfl := Option.some.inj hc
      exact hgoes _ d _ (hnumber ▸ hj)
    · exact hold n hn c hc
  | cancel number => exact hold
  | clear i => exact hold
  | outside =>
    intro n hn c hc
    rcases List.mem_cons.1 hn with rfl | hn
    · cases hc
    · exact hold n hn c hc

/-- A call of the system after a step was there before, or it begins with this step. -/
theorem Step.calls_cases (hs : Good T s) (h : Step T s s') {i : Nat} {c : Caller σ ε}
    {p : StoreCall σ ε (Reply σ ε)} (hi : s'.calls[i]? = some (c, p)) :
    (∃ p₀, s.calls[i]? = some (c, p₀) ∧ Goes T c p₀ p s.world s'.world) ∨
      (T.Admits c ∧ i = s.calls.length ∧ c.number = i ∧ p = c.program ∧ s'.world = s.world) := by
  cases hold : s.calls[i]? with
  | some cp =>
    obtain ⟨p', hp', hgoes⟩ := (h.effect hs).2.2 i cp.1 cp.2 hold
    obtain ⟨rfl, rfl⟩ := Prod.mk.inj (Option.some.inj (hi.symm.trans hp'))
    exact .inl ⟨cp.2, rfl, hgoes⟩
  | none =>
    have hlen := List.getElem?_eq_none_iff.1 hold
    cases h with
    | @start d hd hnumber =>
      have hi' : i = s.calls.length := by
        have := (List.getElem?_eq_some_iff.1 hi).1
        rw [List.length_append, List.length_singleton] at this
        omega
      subst hi'
      rw [List.getElem?_concat_length] at hi
      obtain ⟨rfl, rfl⟩ := Prod.mk.inj (Option.some.inj hi)
      exact .inr ⟨hd, rfl, hnumber, rfl, rfl⟩
    | answer hj =>
      rw [List.getElem?_eq_none_iff.2 (by rwa [List.length_set])] at hi
      cases hi
    | cancel => exact absurd (hold.symm.trans hi) (by simp)
    | clear => exact absurd (hold.symm.trans hi) (by simp)
    | outside => exact absurd (hold.symm.trans hi) (by simp)

/-- **A step of a good system leads to a good system.** -/
theorem Step.good (hs : Good T s) (h : Step T s s') : Good T s' where
  inv := (h.effect hs).1
  authors := h.authors hs
  calls i c p hi := by
    rcases h.calls_cases hs hi with ⟨p₀, hold, hgoes⟩ | ⟨hc, rfl, hnumber, rfl, hworld⟩
    · obtain ⟨hnumber, hc, hkeeps⟩ := hs.calls i c p₀ hold
      exact ⟨hnumber, hc, hgoes.keeps (fun r hrely hr => hr.later hs.inv hc hrely) hs.inv hkeeps⟩
    · refine ⟨hnumber, hc, ?_⟩
      rw [hworld]
      refine Setting.keeps_program hs.inv ?_
      intro n hn heq
      -- no call of that number has made a request yet
      obtain ⟨d, hd, hdnumber⟩ := Option.map_eq_some_iff.1 heq
      obtain ⟨p, hp⟩ := hs.authors n hn d hd
      have := (List.getElem?_eq_some_iff.1 hp).1
      omega

theorem good_initial (ttl : Nat → Duration) : Good T (initial T ttl) where
  inv :=
    { gapFree := fun _ hk => hk
      events := fun key _ => (List.append_nil _).symm
      accounted := fun n t h hsuffix => by simp [initial] at hsuffix
      stamped := fun i => StreamCache.stamped_empty (ttl i)
      marks_le := fun _ _ _ => Nat.zero_le _
      cached := fun i key e _ he => by simp [initial] at he
      offered := fun s hs => by simp [initial, History.offered] at hs
      issued := List.nodup_nil
      owned := fun key _ e _ p hp => by simp [initial, History.issued] at hp }
  authors n hn := by simp [initial] at hn
  calls i c p hi := by simp [initial] at hi

/-- **Every reachable system is good.** -/
theorem Runs.good (hs : Good T s) (h : Runs T s s') : Good T s' := by
  induction h with
  | refl => exact hs
  | tail _ hstep ih => exact hstep.good ih

theorem Reachable.good (h : Reachable T s) : Good T s := by
  obtain ⟨ttl, h⟩ := h
  exact h.good (good_initial ttl)

/-- **What a call that goes on will have established at its end**, if what is established stays so
whatever the others do. -/
theorem Runs.keeps {i : Nat} {c : Caller σ ε} {hc : T.Admits c}
    {post : World σ ε → Except Error (Reply σ ε) → Prop}
    (hpost : ∀ w w' r, T.Inv w → T.Rely c w w' → post w r → post w' r) (hs : Good T s)
    (h : Runs T s s') {p : StoreCall σ ε (Reply σ ε)} (hi : s.calls[i]? = some (c, p))
    (hp : Call.Keeps (T.discipline c hc) post p s.world) :
    ∃ p', s'.calls[i]? = some (c, p') ∧ Call.Keeps (T.discipline c hc) post p' s'.world := by
  induction h with
  | refl => exact ⟨p, hi, hp⟩
  | tail hruns hstep ih =>
    obtain ⟨p', hi', hp'⟩ := ih
    have hgood := Runs.good hs hruns
    obtain ⟨p'', hi'', hgoes⟩ := (hstep.effect hgood).2.2 i c p' hi'
    exact ⟨p'', hi'', hgoes.keeps (fun r => hpost _ _ r hgood.inv) hgood.inv hp'⟩

/-- A later system has a later world. -/
theorem Runs.later (hs : Good T s) (h : Runs T s s') : T.Later s.world s'.world := by
  induction h with
  | refl => exact .refl _
  | tail hruns hstep ih => exact ih.trans (hstep.effect (Runs.good hs hruns)).2.1

/-- **A call may be run to its end while the others rest.** -/
theorem Runs.of_runsTo {i : Nat} {c : Caller σ ε} {p : StoreCall σ ε (Reply σ ε)}
    {r : Except Error (Reply σ ε)} {w w' : World σ ε}
    {calls : List (Caller σ ε × StoreCall σ ε (Reply σ ε))} (hi : calls[i]? = some (c, p))
    (h : Call.RunsTo (fun w q a w' => World.serves c w q a w') p w r w') :
    Runs T ⟨w, calls⟩ ⟨w', calls.set i (c, .ofExcept r)⟩ := by
  obtain ⟨hlt, hget⟩ := List.getElem?_eq_some_iff.1 hi
  have hself : calls.set i (c, p) = calls := by rw [← hget, List.set_getElem_self]
  induction h generalizing calls with
  | done a w => rw [Call.ofExcept, hself]
  | failed e w => rw [Call.ofExcept, hself]
  | @waiting q next w w₁ w₂ a r ha _ ih =>
    have hnext : (calls.set i (c, next a))[i]? = some (c, next a) := List.getElem?_set_self hlt
    have hlt' := (List.getElem?_eq_some_iff.1 hnext).1
    have hrest := ih hnext hlt' (List.getElem?_eq_some_iff.1 hnext).2 (List.set_set ..)
    rw [List.set_set] at hrest
    exact .head (.answer hi ha) hrest

end System

end EventLedger
