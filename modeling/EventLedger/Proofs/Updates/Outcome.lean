import EventLedger.Orders.Commands
import EventLedger.Orders.Store
import EventLedger.Proofs.Updates.Scene

/-!
# What an update leaves behind

An update may end in many ways: the stream cannot be read, the last batch carries the source, the
decision fails or emits nothing, an event cannot be written, the caller cancels, the batch is in
conflict and no retry is left.  In all of them its turns have added nothing.  Otherwise one of its
turns has put a batch into the log, which is what the update yields, and no turn before or after has
changed the log.

## Main definitions

* `Checked t` — every commit among the turns follows a check that the caller has not cancelled.
* `Leaves key source t r` — what the turns of an update that ends with `r` have done.

## Main results

* `AggregateStore.leaves_of_update` — **an update that fails has added nothing, and one that commits
  has added the events that it yields, once.**
-/

namespace EventLedger

open Call (Asks Ends RunsTo)

variable {σ ε : Type}

/-- Every commit among the turns directly follows a check that the caller has not cancelled. -/
def Checked : List (Turn σ ε) → Prop
  | [] => True
  | n :: t => (n.IsCommit → ∃ c ∈ t.head?, c.Passes) ∧ Checked t

/-- One turn has put a batch into the stream of the key, as the events `es`; the turns before it have
added nothing, and those after it have not changed the log. -/
def AddsOnce (key : StreamKey) (es : List CommittedEvent) (t : List (Turn σ ε)) : Prop :=
  ∃ later earlier b ps before after fired,
    t = later ++ ⟨.storage (.commit key b ps), .ok es, before, after, fired⟩ :: earlier ∧
      es ≠ [] ∧ before.Extends key b ps es after ∧
      (∀ n ∈ later, ¬n.IsCommit ∧ n.after = n.before) ∧ ∀ n ∈ earlier, n.AddsNothing

/-- The last event of the batch carries the source of the update. -/
def CarriesSource (source : Option String) (es : List CommittedEvent) : Prop :=
  ∃ t e, source = some t ∧ es.getLast? = some e ∧ AggregateStore.carries t e = true

/-- What the turns of an update that ends with `r` have done. -/
structure Leaves (key : StreamKey) (source : Option String) (t : List (Turn σ ε))
    (r : Except Error (List CommittedEvent)) : Prop where
  /-- Every commit directly follows a check that the caller has not cancelled. -/
  checked : Checked t
  /-- An update that fails has added nothing. -/
  failed : ∀ e, r = .error e → ∀ n ∈ t, n.AddsNothing
  /-- An update that yields no event, or a batch that carries its source, may have added nothing;
  otherwise it has added the events that it yields, once. -/
  ended : ∀ es, r = .ok es →
    ((es = [] ∨ CarriesSource source es) ∧ ∀ n ∈ t, n.AddsNothing) ∨ AddsOnce key es t

variable {key : StreamKey} {source : Option String} {t t' : List (Turn σ ε)}
  {r : Except Error (List CommittedEvent)}

/-! ### Turns one after another -/

theorem Checked.append (h : Checked t) (h' : Checked t') : Checked (t ++ t') := by
  induction t with
  | nil => exact h'
  | cons n t ih =>
    refine ⟨?_, ih h.2⟩
    intro hn
    obtain ⟨c, hc, hpass⟩ := h.1 hn
    exact ⟨c, List.mem_head?_append_of_mem_head? hc, hpass⟩

theorem checked_of_forall (h : ∀ n ∈ t, ¬n.IsCommit) : Checked t := by
  induction t with
  | nil => trivial
  | cons n t ih =>
    obtain ⟨hn, ht⟩ := List.forall_mem_cons.1 h
    exact ⟨fun hcommit => absurd hcommit hn, ih ht⟩

/-- Turns that add nothing may come before. -/
theorem Leaves.after (h : Leaves key source t r) (hchecked : Checked t')
    (hnothing : ∀ n ∈ t', n.AddsNothing) : Leaves key source (t ++ t') r := by
  have hall : (∀ n ∈ t, n.AddsNothing) → ∀ n ∈ t ++ t', n.AddsNothing := by
    intro ht n hn
    exact (List.mem_append.1 hn).elim (ht n) (hnothing n)
  refine ⟨h.checked.append hchecked, fun e he => hall (h.failed e he), ?_⟩
  intro es hes
  rcases h.ended es hes with ⟨hwhy, ht⟩ | ⟨later, earlier, b, ps, l, l', f, rfl, hne, hext, hl, he⟩
  · exact .inl ⟨hwhy, hall ht⟩
  · refine .inr ⟨later, earlier ++ t', b, ps, l, l', f, by simp, hne, hext, hl, ?_⟩
    intro n hn
    exact (List.mem_append.1 hn).elim (he n) (hnothing n)

/-- After a turn at which the caller had cancelled, no turn commits. -/
theorem Checked.not_isCommit (h : Checked t)
    (hordered : t.Pairwise fun later earlier => earlier.fired = true → later.fired = true)
    (hpasses : ∀ n ∈ t, n.Passes → n.fired = false) :
    t.Pairwise fun later earlier => earlier.fired = true → ¬later.IsCommit := by
  induction t with
  | nil => exact .nil
  | cons n t ih =>
    obtain ⟨-, hordered⟩ := List.pairwise_cons.1 hordered
    refine List.pairwise_cons.2
      ⟨?_, ih h.2 hordered fun k hk => hpasses k (List.mem_cons_of_mem n hk)⟩
    intro earlier hearlier hfired hcommit
    -- the check right before the commit found the token live, and it is no older than `earlier`
    obtain ⟨c, hc, hpass⟩ := h.1 hcommit
    obtain ⟨rest, rfl⟩ : ∃ rest, t = c :: rest := by
      cases t with
      | nil => cases hc
      | cons c' rest => exact ⟨rest, by rw [Option.some.inj (Option.mem_def.1 hc)]⟩
    have hlive : c.fired = false := hpasses c (by simp) hpass
    have hdead : c.fired = true := by
      rcases List.mem_cons.1 hearlier with rfl | hrest
      · exact hfired
      · exact (List.pairwise_cons.1 hordered).1 earlier hrest hfired
    rw [hlive] at hdead
    cases hdead

namespace Scene

variable {s s₁ s' : Scene σ ε}

/-- From `s` to `s'` the call has made the turns of an update that ends with `r`. -/
def Reports (key : StreamKey) (source : Option String) (s s' : Scene σ ε)
    (r : Except Error (List CommittedEvent)) : Prop :=
  ∃ new, s'.turns = new ++ s.turns ∧ Leaves key source new r

/-- Idle turns add nothing. -/
theorem Rests.exists_turns (h : Rests StoreRequest.IsIdle s s') :
    ∃ new, s'.turns = new ++ s.turns ∧ Checked new ∧ ∀ n ∈ new, n.AddsNothing := by
  obtain ⟨new, hnew, hall⟩ := h.turns
  refine ⟨new, hnew, checked_of_forall ?_, ?_⟩
  · rintro n hn ⟨key, b, ps, hq⟩
    have hidle := (hall n hn).1
    rw [hq] at hidle
    exact hidle
  · intro n hn
    refine ⟨(hall n hn).2, ?_⟩
    rintro ⟨snapshot, hq⟩
    have hidle := (hall n hn).1
    rw [hq] at hidle
    exact hidle

/-- Idle turns may come before. -/
theorem Reports.after (h : Reports key source s₁ s' r) (hrests : Rests StoreRequest.IsIdle s s₁) :
    Reports key source s s' r := by
  obtain ⟨new, hnew, hleaves⟩ := h
  obtain ⟨old, hold, hchecked, hnothing⟩ := hrests.exists_turns
  exact ⟨new ++ old, by rw [hnew, hold, List.append_assoc], hleaves.after hchecked hnothing⟩

/-- An update may end after idle turns with a failure, without events, or with a batch that carries
its source. -/
theorem Rests.reports (h : Rests StoreRequest.IsIdle s s')
    (hr : ∀ es, r = .ok es → es = [] ∨ CarriesSource source es) : Reports key source s s' r := by
  obtain ⟨new, hnew, hchecked, hnothing⟩ := h.exists_turns
  exact ⟨new, hnew, hchecked, fun _ _ => hnothing, fun es hes => .inl ⟨hr es hes, hnothing⟩⟩

theorem Rests.reports_error (h : Rests StoreRequest.IsIdle s s') (e : Error) :
    Reports key source s s' (.error e) :=
  h.reports fun _ hes => by cases hes

/-- A failed update may be followed by another one. -/
theorem Reports.then {e : Error} (h : Reports key source s s₁ (.error e))
    (h' : Reports key source s₁ s' r) : Reports key source s s' r := by
  obtain ⟨old, hold, hleaves⟩ := h
  obtain ⟨new, hnew, hleaves'⟩ := h'
  exact ⟨new ++ old, by rw [hnew, hold, List.append_assoc],
    hleaves'.after hleaves.checked (hleaves.failed e rfl)⟩

end Scene

namespace AggregateStore

open Scene StoreRequest

variable {store : AggregateStore σ ε} {id : AggregateId} {s s' : Scene σ ε}

/-- A part of a call that makes idle requests only. -/
theorem rests_of_asks {α : Type} {c : StoreCall σ ε α} {r : Except Error α} (hc : Asks IsIdle c)
    (hrun : RunsTo Goes c s r s') (h : s.Inv) : Rests IsIdle s s' :=
  rests_of_runsTo hc (fun _ hq => hq.leavesEvents) hrun h

/-- After a part that makes idle requests only the update goes on, if it does not end with a failure
of that part. -/
theorem reports_of_bind {α : Type} {c : StoreCall σ ε α}
    {f : α → StoreCall σ ε (List CommittedEvent)} (hc : Asks IsIdle c) (h : s.Inv)
    (hrun : RunsTo Goes (c.bind f) s r s')
    (hrest : ∀ a s₁, RunsTo Goes c s (.ok a) s₁ → s₁.Inv → RunsTo Goes (f a) s₁ r s' →
      Reports key source s₁ s' r) : Reports key source s s' r := by
  rcases hrun.of_bind with ⟨a, s₁, hfirst, hnext⟩ | ⟨e, hfirst, rfl⟩
  · have hreports := hrest a s₁ hfirst (inv_of_runsTo hfirst h) hnext
    exact hreports.after (rests_of_asks hc hfirst h)
  · exact (rests_of_asks hc hfirst h).reports_error e

/-- A check that succeeds is a turn that passes. -/
theorem exists_turn_of_checkLive
    (hrun : RunsTo Goes (StoreCall.checkLive : StoreCall σ ε Unit) s (.ok ()) s') :
    ∃ c, s'.turns = c :: s.turns ∧ c.Passes ∧ ¬c.IsCommit ∧ c.AddsNothing := by
  rcases hrun.of_bind with ⟨cancelled, s₁, hask, hrest⟩ | ⟨e, -, hr⟩
  · obtain ⟨a, hr, s₂, hm, l, ⟨-, hl⟩, rfl⟩ := hask.of_ask
    obtain rfl := Except.ok.inj hr
    cases cancelled with
    | true => cases hrest
    | false =>
      cases hrest
      refine ⟨_, congrArg _ hm.turns, rfl, ?_, hl, ?_⟩
      · rintro ⟨key, b, ps, hq⟩
        cases hq
      · rintro ⟨snapshot, hq⟩
        cases hq
  · cases hr

/-- The turn of a commit under an identifier that is not used: it is refused and changes nothing, or
it puts the batch into the log. -/
theorem exists_turn_of_commit {b : Uuid} {ps : List PendingEvent}
    {a : Except Error (List CommittedEvent)} (h : s.Inv) (hb : b ∈ s.issued)
    (hunused : s.log.Unused b) (hgoes : s.Goes (.storage (.commit key b ps)) a s') :
    ∃ l l' f, s'.turns = ⟨.storage (.commit key b ps), a, l, l', f⟩ :: s.turns ∧
      ((∃ e, a = .error e ∧ l' = l) ∨ ∃ es, a = .ok es ∧ es ≠ [] ∧ l.Extends key b ps es l') := by
  obtain ⟨s₁, hm, l', ⟨shelf, ha⟩, rfl⟩ := hgoes
  refine ⟨s₁.log, l', s₁.fired, congrArg _ hm.turns, ?_⟩
  have h₁ := h.moves hm
  have hunused₁ := hm.unused h hb hunused
  rw [MemoryStorage.answer_commit] at ha
  have hanswer : (s₁.log.commit key b ps).1 = a := congrArg Prod.fst ha
  have hlog : (s₁.log.commit key b ps).2 = l' := congrArg (fun r => r.2.events) ha
  rcases s₁.log.commit_cases key b ps with
    ⟨e, -, hc⟩ | ⟨hv, -, hc⟩ | ⟨hv, -, stored, hstored, -⟩ | ⟨-, -, n, -, hc⟩
  · rw [hc] at hanswer hlog
    exact .inl ⟨_, hanswer.symm, hlog.symm⟩
  · rw [hc] at hanswer hlog
    subst hlog
    refine .inr ⟨_, hanswer.symm, ?_,
      h₁.coherent.extends_append (EventLog.runsOn_of_validateBatch hv)⟩
    obtain ⟨p, rest, rfl, -⟩ := EventLog.numbered_of_validateBatch hv
    exact List.cons_ne_nil _ _
  · -- a batch under this identifier cannot be stored already
    obtain ⟨p, rest, rfl, -⟩ := EventLog.numbered_of_validateBatch hv
    exact absurd hstored (hunused₁.not_storedAs h₁.coherent (List.cons_ne_nil p rest))
  · rw [hc] at hanswer hlog
    exact .inl ⟨_, hanswer.symm, hlog.symm⟩

/-- A commit right after a check, and what follows it without storing events or failing. -/
theorem reports_of_commit {b : Uuid} {ps : List PendingEvent}
    {rest : List CommittedEvent → StoreCall σ ε (List CommittedEvent)} {s₁ : Scene σ ε}
    {c : Turn σ ε} (hturns : s₁.turns = c :: s.turns) (hpass : c.Passes) (hnot : ¬c.IsCommit)
    (hc : c.AddsNothing) (h : s₁.Inv) (hb : b ∈ s₁.issued) (hunused : s₁.log.Unused b)
    (hasks : ∀ es, Asks LeavesEvents (rest es)) (hends : ∀ es, Ends (fun r => r = .ok es) (rest es))
    (hrun : RunsTo Goes ((StoreCall.storage (.commit key b ps)).bind rest) s₁ r s') :
    Reports key source s s' r := by
  have hchecked : ∀ n : Turn σ ε, Checked [n, c] :=
    fun n => ⟨fun _ => ⟨c, rfl, hpass⟩, fun hcommit => absurd hcommit hnot, trivial⟩
  rcases hrun.of_bind with ⟨committed, s₂, hcommit, hrest⟩ | ⟨e, hcommit, rfl⟩
  · have hgoes := StoreCall.serves_of_storage hcommit
    obtain ⟨l, l', f, hnew, ⟨e, he, -⟩ | ⟨es, hes, hne, hext⟩⟩ :=
      exists_turn_of_commit h hb hunused hgoes
    · cases he
    obtain rfl := Except.ok.inj hes
    obtain rfl := (hends committed).of_runsTo hrest
    obtain ⟨⟨later, hlater, hall⟩, -, -⟩ :=
      rests_of_runsTo (hasks committed) (fun _ hq => hq) hrest (h.goes hgoes)
    have hquiet : ∀ n ∈ later, ¬n.IsCommit ∧ n.after = n.before := by
      intro n hn
      refine ⟨?_, (hall n hn).2⟩
      rintro ⟨key', b', ps', hq⟩
      have hleaves := (hall n hn).1
      rw [hq] at hleaves
      exact hleaves
    refine ⟨later ++ [⟨.storage (.commit key b ps), .ok committed, l, l', f⟩, c], ?_, ?_, ?_, ?_⟩
    · rw [hlater, hnew, hturns, List.append_assoc]
      rfl
    · exact (checked_of_forall fun n hn => (hquiet n hn).1).append (hchecked _)
    · intro e he
      cases he
    · rintro es ⟨⟩
      refine .inr ⟨later, [c], b, ps, l, l', f, rfl, hne, hext, hquiet, ?_⟩
      intro n hn
      obtain rfl := List.mem_singleton.1 hn
      exact hc
  · have hgoes := StoreCall.serves_of_storage hcommit
    obtain ⟨l, l', f, hnew, ⟨e', -, rfl⟩ | ⟨es, hes, -⟩⟩ := exists_turn_of_commit h hb hunused hgoes
    swap
    · cases hes
    refine ⟨[⟨.storage (.commit key b ps), .error e, l', l', f⟩, c], ?_, hchecked _, ?_, ?_⟩
    · rw [hnew, hturns]
      rfl
    · intro e' _ n hn
      rcases List.mem_cons.1 hn with rfl | hn
      · refine ⟨rfl, ?_⟩
        rintro ⟨snapshot, hq⟩
        cases hq
      · obtain rfl := List.mem_singleton.1 hn
        exact hc
    · intro es hes
      cases hes

/-- **Committing a root adds nothing, or the events that it yields.** -/
theorem reports_of_commitRoot {stream : LoadedStream ε} {root : Root σ ε} (h : s.Inv)
    (hrun : RunsTo Goes (store.commitRoot id source stream root) s r s') :
    Reports (store.keyOf id) source s s' r := by
  have hfresh : Asks IsIdle (StoreCall.freshId : StoreCall σ ε Uuid) :=
    ⟨trivial, fun _ => trivial⟩
  have hnow : Asks IsIdle (StoreCall.now : StoreCall σ ε Instant) := ⟨trivial, fun _ => trivial⟩
  refine reports_of_bind hfresh h hrun ?_
  intro b s₁ hgiven h₁ hrun
  -- the identifier of the batch is nobody else's, so it stays unused until the commit
  have hunused : b ∈ s₁.issued ∧ s₁.log.Unused b := by
    obtain ⟨a, hr, s₀, -, l, ⟨hunused, rfl⟩, rfl⟩ := hgiven.of_ask
    obtain rfl := Except.ok.inj hr
    exact ⟨List.mem_cons_self, hunused⟩
  refine reports_of_bind hnow h₁ hrun ?_
  intro now s₂ hread h₂ hrun
  have hrests₂ := rests_of_asks hnow hread h₁
  refine reports_of_bind (asks_pendingEvents trivial ..) h₂ hrun ?_
  intro ps s₃ hps h₃ hrun
  have hrests₃ := hrests₂.trans (rests_of_asks (asks_pendingEvents trivial ..) hps h₂)
  have hlives : Asks IsIdle (StoreCall.checkLive : StoreCall σ ε Unit) :=
    asks_checkLive.imp fun _ hq => hq.isReading.isIdle
  rcases hrun.of_bind with ⟨u, s₄, hlive, hrun⟩ | ⟨e, hlive, rfl⟩
  · have hrests := hrests₃.trans (rests_of_asks hlives hlive h₃)
    obtain ⟨c, hturns, hpass, hnot, hc⟩ := exists_turn_of_checkLive hlive
    refine reports_of_commit hturns hpass hnot hc (inv_of_runsTo hlive h₃)
      (hrests.issued b hunused.1) (hrests.unused b hunused.1 hunused.2) ?_ ?_ hrun
    · exact fun es => asks_afterCommit trivial trivial trivial fun _ _ _ => trivial
    · exact fun es => ends_afterCommit id root _ _ es
  · exact (rests_of_asks hlives hlive h₃).reports_error e

/-- **An attempt adds nothing, or the events that it yields.** -/
theorem reports_of_attempt (h : s.Inv) (hrun : RunsTo Goes (store.attempt id source) s r s') :
    Reports (store.keyOf id) source s s' r := by
  refine reports_of_bind ((asks_loadRoot id).imp fun _ hq => hq.isIdle) h hrun ?_
  rintro ⟨root, stream⟩ s₁ _ h₁ hrun
  refine reports_of_bind ((asks_redelivered ..).imp fun _ hq => hq.isReading.isIdle) h₁ hrun ?_
  intro found s₂ hfound h₂ hrun
  cases found with
  | some batch =>
    cases hrun
    refine (Rests.refl _).reports ?_
    rintro es ⟨⟩
    exact .inr ((ends_redelivered id stream source).of_runsTo hfound batch rfl)
  | none =>
    have hdecides : Asks IsIdle
        (StoreCall.decide root : StoreCall σ ε (Except Error (Root σ ε))) :=
      ⟨trivial, fun _ => trivial⟩
    refine reports_of_bind hdecides h₂ hrun ?_
    intro decision s₃ _ h₃ hrun
    refine reports_of_bind (Asks.ofExcept decision) h₃ hrun ?_
    intro decided s₄ _ h₄ hrun
    split at hrun
    · cases hrun
      refine (Rests.refl _).reports ?_
      rintro es ⟨⟩
      exact .inl rfl
    · exact reports_of_commitRoot h₄ hrun

/-- **The attempts of an update add nothing, or the events that the last one yields.** -/
theorem reports_of_attempts {retries done : Nat} (h : s.Inv)
    (hrun : RunsTo Goes (store.attempts id source retries done) s r s') :
    Reports (store.keyOf id) source s s' r := by
  induction retries generalizing done s with
  | zero =>
    obtain ⟨r₁, s₁, hattempt, hrest⟩ := hrun.of_outcome_bind
    have hreports := reports_of_attempt h hattempt
    have h₁ := inv_of_runsTo hattempt h
    cases r₁ with
    | ok es =>
      cases hrest
      exact hreports
    | error e =>
      dsimp only at hrest
      split at hrest
      · refine hreports.then (reports_of_bind (asks_invalidate trivial) h₁ hrest ?_)
        intro u s₂ _ _ hfail
        cases hfail
        exact (Rests.refl _).reports_error e
      · cases hrest
        exact hreports
  | succ retries ih =>
    obtain ⟨r₁, s₁, hattempt, hrest⟩ := hrun.of_outcome_bind
    have hreports := reports_of_attempt h hattempt
    have h₁ := inv_of_runsTo hattempt h
    cases r₁ with
    | ok es =>
      cases hrest
      exact hreports
    | error e =>
      dsimp only at hrest
      split at hrest
      · -- the failed attempt has added nothing, so whatever the next ones add is all there is
        refine hreports.then (reports_of_bind (asks_invalidate trivial) h₁ hrest ?_)
        intro u s₂ _ h₂ hrest
        refine reports_of_bind (asks_pause trivial) h₂ hrest ?_
        intro u' s₃ _ h₃ hrest
        exact ih h₃ hrest
      · cases hrest
        exact hreports

/-- **An update that fails has added nothing, and one that commits has added the events that it
yields, once**; after a turn at which the caller had cancelled, none of its turns commits. -/
theorem leaves_of_update {m : MemoryStorage} {fired : Bool} (hm : m.Reachable)
    (hrun : RunsTo Goes (store.update id source) (.start m fired) r s') :
    Leaves (store.keyOf id) source s'.turns r ∧
      s'.turns.Pairwise fun later earlier => earlier.fired = true → ¬later.IsCommit := by
  have h : (Scene.start m fired : Scene σ ε).Inv := inv_start hm fired
  obtain ⟨new, hnew, hleaves⟩ := reports_of_attempts h hrun
  obtain rfl : s'.turns = new := by
    rw [hnew]
    exact List.append_nil new
  have h' := inv_of_runsTo hrun h
  exact ⟨hleaves, hleaves.checked.not_isCommit h'.ordered h'.passes⟩

/-- The first update of an order adds the event that it yields, once. -/
theorem addsOnce_of_first_update : ∃ es s', es.length = 1 ∧
    RunsTo Goes (OrderStore.plain.update MemoryStorage.sampleKey.id none) (.start {} false) (.ok es)
      s' ∧
    AddsOnce (OrderStore.plain.keyOf MemoryStorage.sampleKey.id) es s'.turns := by
  have hrun : ∃ es s', RunsTo Goes (OrderStore.plain.update MemoryStorage.sampleKey.id none)
      (.start {} false) (.ok es) s' ∧ es.length = 1 := by
    refine ⟨?es, ?last, ?run, ?length⟩
    case run =>
      -- the check, the reading, the decision, the identifier, the time, the check and the commit
      refine .waiting (a := false) ⟨_, .refl _, _, ⟨rfl, rfl⟩, rfl⟩ ?_
      refine .waiting ⟨_, .refl _, _, ⟨_, rfl⟩, rfl⟩ ?_
      refine .waiting
        (a := OrderRoot.add ⟨MemoryStorage.sampleKey.id, Order.aggregate.initial, 0, []⟩ "apple" 2)
        ⟨_, .refl _, _, rfl, rfl⟩ ?_
      refine .waiting (a := Uuid.ofNat 1) ⟨_, .refl _, _, ⟨?_, rfl⟩, rfl⟩ ?_
      · intro e he
        cases he
      refine .waiting (a := (⟨0, 0⟩ : Instant)) ⟨_, .refl _, _, rfl, rfl⟩ ?_
      refine .waiting (a := false) ⟨_, .refl _, _, ⟨rfl, rfl⟩, rfl⟩ ?_
      refine .waiting ⟨_, .refl _, _, ⟨_, rfl⟩, rfl⟩ ?_
      exact .done _ _
    case length => rfl
  obtain ⟨es, s', hrun, hlength⟩ := hrun
  refine ⟨es, s', hlength, hrun, ?_⟩
  rcases (leaves_of_update ⟨[], rfl⟩ hrun).1.ended es rfl with ⟨rfl | ⟨t, e, ht, -⟩, -⟩ | hadds
  · cases hlength
  · cases ht
  · exact hadds

end AggregateStore

end EventLedger
