import EventLedger.Proofs.Clients.System
import Mathlib.Data.List.Infix

/-!
# Playing systems

A run of a system is determined by the calls, by which of them goes on next, and by how the world
answers where it has a choice.  Here the calls and the order are given as lists, and the world
answers in the simplest way: time stands still, nothing is cancelled, identifiers are counted, and
the snapshot given out is the one that was brought last.

## Main definitions

* `Part`, `Part.caller` — a call with the decision that it makes.
* `World.reply?` — the answer to a request of a part.
* `System.turn?`, `System.play?` — one turn of a part, and a whole schedule of turns.
* `System.yielded?`, `System.failure?` — how a call has ended.
* `System.isContended` — whether a call has met the only commit to a stream in a conflict.

## Main results

* `System.runs_of_play?` — **what is played is a run.**
* `System.Plays.exists_met` — a commit that another call has met in a conflict.
-/

namespace EventLedger

variable {σ ε : Type}

/-- A call that is played. -/
structure Part (σ ε : Type) where
  /-- The store that is called. -/
  store : AggregateStore σ ε
  /-- The number of the cache that the store uses, if it uses one. -/
  cache : Nat
  /-- The aggregate. -/
  id : AggregateId
  /-- The source of the change and the decision; a call without them loads. -/
  change : Option (Option String × (Root σ ε → Except Error (Root σ ε)))

/-- The call with a number. -/
def Part.caller (p : Part σ ε) (number : Nat) : Caller σ ε where
  number := number
  store := p.store
  cache := p.cache
  id := p.id
  task :=
    match p.change with
    | none => .load
    | some (source, decide) => .update source fun root outcome => outcome = decide root

/-- A part is admitted whose decision emits events only. -/
theorem Part.admits {T : Setting σ ε} {p : Part σ ε} (hfits : T.Fits p.store)
    (htracked : T.Tracked (p.store.keyOf p.id))
    (hemits : ∀ change, p.change = some change → ∀ root root', change.2 root = .ok root' →
      Root.Emits T.aggregate root root') (number : Nat) : T.Admits (p.caller number) where
  fits := hfits
  tracked := htracked
  emits root root' hdecide := by
    unfold Caller.mayDecide Part.caller at hdecide
    cases hchange : p.change with
    | none => simp [hchange] at hdecide
    | some change =>
      simp only [hchange] at hdecide
      exact hemits change hchange root root' hdecide.symm

namespace World

/-- Whether an identifier was never given out and no stored event carries it. -/
def isFresh (w : World σ ε) (b : Uuid) : Bool :=
  (History.issued w.history).all (fun p => p.2 != b) &&
    w.log.streams.values.all fun s => s.values.all fun e => e.batchId != b

/-- The answer to a request of a part and the world after it. -/
def reply? (w : World σ ε) (p : Part σ ε) (number : Nat) :
    (q : StoreRequest σ ε) → Option (q.Answer × World σ ε)
  | .storage (.loadSnapshot key) =>
    some (.ok ((History.offered w.history).find? fun s => s.key = key), w)
  | .storage q =>
    let r := MemoryStorage.answer ⟨w.log, .empty⟩ (w.fired number) q
    some (r.1, { w with log := r.2.events })
  | .cached key =>
    let r := (w.caches p.cache).get key ⟨0, 0⟩
    some (r.1, w.withCache p.cache r.2)
  | .generation key => some ((w.caches p.cache).generation key, w)
  | .keep key generation stream =>
    let r := (w.caches p.cache).insert key generation stream ⟨0, 0⟩
    some (r.1, w.withCache p.cache r.2)
  | .invalidate key =>
    some ((), (w.withCache p.cache ((w.caches p.cache).invalidate key)).marked p.cache key)
  | .readState state => some (p.store.codec.readState state, w)
  | .isCancelled => some (w.fired number, w)
  | .pause _ => some (false, w)
  | .now => some (⟨0, 0⟩, w)
  | .freshId =>
    let b := Uuid.ofNat ((History.issued w.history).length + 1)
    if w.isFresh b then some (b, w) else none
  | .roll => some (.zero false, w)
  | .decide root => p.change.map fun change => (change.2 root, w)

theorem fresh_of_isFresh {w : World σ ε} {b : Uuid} (h : w.isFresh b = true) : w.Fresh b := by
  obtain ⟨hissued, hstored⟩ := Bool.and_eq_true_iff.1 h
  refine ⟨fun p hp => by simpa using List.all_eq_true.1 hissued p hp, ?_⟩
  intro key e he
  unfold events EventLog.stream at he
  cases hs : w.log.streams.get? key with
  | none => simp [hs, OrderedMap.values, OrderedMap.empty] at he
  | some s =>
    obtain ⟨entry, hfind, rfl⟩ := Option.map_eq_some_iff.1 hs
    have hmem : entry.2 ∈ w.log.streams.values :=
      List.mem_map_of_mem (List.mem_of_find?_eq_some hfind)
    have hall := List.all_eq_true.1 (List.all_eq_true.1 hstored _ hmem) e (by simpa [hs] using he)
    simpa using hall

/-- The world may answer a part in this way. -/
theorem answers_of_reply? {w : World σ ε} {p : Part σ ε} {number : Nat} {q : StoreRequest σ ε}
    {r : q.Answer × World σ ε} (h : w.reply? p number q = some r) :
    w.answers (p.caller number) q r.1 r.2 := by
  cases q with
  | storage q =>
    cases q with
    | loadSnapshot key =>
      obtain rfl := Option.some.inj h
      refine ⟨?_, rfl⟩
      cases hfind : (History.offered w.history).find? fun s => s.key = key with
      | none => trivial
      | some s => exact .inl ⟨by simpa using List.find?_some hfind, List.mem_of_find?_eq_some hfind⟩
    | storeSnapshot s =>
      obtain rfl := Option.some.inj h
      change { w with log := _ } = w
      unfold MemoryStorage.answer
      split <;> rfl
    | _ => exact Option.some.inj h ▸ ⟨rfl, rfl⟩
  | cached key => exact Option.some.inj h ▸ ⟨⟨0, 0⟩, rfl, rfl⟩
  | keep key generation stream => exact Option.some.inj h ▸ ⟨⟨0, 0⟩, rfl, rfl⟩
  | pause d => exact Option.some.inj h ▸ ⟨fun h => (by cases h), rfl⟩
  | freshId =>
    obtain ⟨hfresh, h⟩ := Option.ite_none_right_eq_some.1 h
    exact Option.some.inj h ▸ ⟨fresh_of_isFresh hfresh, rfl⟩
  | decide root =>
    obtain ⟨change, hchange, rfl⟩ := Option.map_eq_some_iff.1 h
    refine ⟨?_, rfl⟩
    simp only [Caller.mayDecide, Part.caller, hchange]
  | invalidate key => exact Option.some.inj h ▸ rfl
  | now => exact Option.some.inj h ▸ rfl
  | roll => exact Option.some.inj h ▸ rfl
  | _ => exact Option.some.inj h ▸ ⟨rfl, rfl⟩

end World

/-- The version of a loaded aggregate. -/
def Reply.version? : Reply σ ε → Option Nat
  | .root r => some r.version
  | .batch _ => none

/-- The numbers of committed events. -/
def Reply.numbers? : Reply σ ε → Option (List Nat)
  | .root _ => none
  | .batch events => some (events.map (·.sequence))

namespace System

/-- What a call has yielded. -/
def yielded? (s : System σ ε) (i : Nat) : Option (Reply σ ε) :=
  match s.calls[i]? with
  | some (_, .done r) => some r
  | _ => none

theorem exists_call_of_yielded? {s : System σ ε} {i : Nat} {r : Reply σ ε}
    (h : s.yielded? i = some r) : ∃ c, s.calls[i]? = some (c, .done r) := by
  unfold yielded? at h
  split at h
  next c r' hcall =>
    obtain rfl := Option.some.inj h
    exact ⟨c, hcall⟩
  next => cases h

theorem exists_call_of_version? {s : System σ ε} {i V : Nat}
    (h : (s.yielded? i).bind (·.version?) = some V) :
    ∃ c root, s.calls[i]? = some (c, .done (.root root)) ∧ root.version = V := by
  obtain ⟨r, hr, hV⟩ := Option.bind_eq_some_iff.1 h
  obtain ⟨c, hc⟩ := exists_call_of_yielded? hr
  cases r with
  | root root => exact ⟨c, root, hc, Option.some.inj hV⟩
  | batch events => cases hV

theorem exists_call_of_numbers? {s : System σ ε} {i : Nat} {ns : List Nat}
    (h : (s.yielded? i).bind (·.numbers?) = some ns) :
    ∃ c es, s.calls[i]? = some (c, .done (.batch es)) ∧ es.map (·.sequence) = ns := by
  obtain ⟨r, hr, hns⟩ := Option.bind_eq_some_iff.1 h
  obtain ⟨c, hc⟩ := exists_call_of_yielded? hr
  cases r with
  | root root => cases hns
  | batch events => exact ⟨c, events, hc, Option.some.inj hns⟩

/-- The failure that a call has ended with. -/
def failure? (s : System σ ε) (i : Nat) : Option Error :=
  match s.calls[i]? with
  | some (_, .failed e) => some e
  | _ => none

theorem exists_call_of_failure? {s : System σ ε} {i : Nat} {e : Error} (h : s.failure? i = some e) :
    ∃ c, s.calls[i]? = some (c, .failed e) := by
  unfold failure? at h
  split at h
  next c e' hcall =>
    obtain rfl := Option.some.inj h
    exact ⟨c, hcall⟩
  next => cases h

/-- Whether the call `i` has made the only commit to a stream, and the call `j` has met a conflict
after it and could still retry. -/
def isContended (s : System σ ε) (key : StreamKey) (i j retries : Nat) : Bool :=
  decide ((History.commitsOn key s.world.history).map (fun h => h.author.map (·.number)) =
    [some i]) &&
  s.world.history.tails.any fun t => decide ((History.commitsOn key t).length = 1 ∧
    t.head?.map (fun n => (n.number, n.isConflict)) = some (some j, true) ∧
    History.conflicts j t ≤ retries)

/-- The system after a turn of a part: it begins, or its next request is answered.  A call that has
ended rests. -/
def turn? (parts : List (Part σ ε)) (s : System σ ε) (i : Nat) : Option (System σ ε) := do
  let p ← parts[i]?
  if i = s.calls.length then
    pure { s with calls := s.calls ++ [(p.caller i, (p.caller i).program)] }
  else
    match ← s.calls[i]? with
    | (c, .waiting q next) =>
      let (a, w) ← s.world.reply? p i q
      pure ⟨w.noted ⟨some c, q, a⟩, s.calls.set i (c, next a)⟩
    | _ => pure s

/-- The system after turns of parts. -/
def play? (parts : List (Part σ ε)) (s : System σ ε) (turns : List Nat) : Option (System σ ε) :=
  turns.foldlM (turn? parts) s

/-- The calls of the system are the first of the parts. -/
def Plays (parts : List (Part σ ε)) (s : System σ ε) : Prop :=
  ∀ (i : Nat) c call, s.calls[i]? = some (c, call) → ∃ p, parts[i]? = some p ∧ c = p.caller i

theorem plays_initial (T : Setting σ ε) (ttl : Nat → Duration) (parts : List (Part σ ε)) :
    Plays parts (initial T ttl) := fun i c call h => by simp [initial] at h

variable {T : Setting σ ε} {parts : List (Part σ ε)} {s s' : System σ ε}

theorem Plays.caller_eq (hs : Plays parts s) {i : Nat} {p : Part σ ε} {c : Caller σ ε}
    {call : StoreCall σ ε (Reply σ ε)} (hp : parts[i]? = some p)
    (hi : s.calls[i]? = some (c, call)) : c = p.caller i := by
  obtain ⟨p', hp', rfl⟩ := hs i c call hi
  obtain rfl : p = p' := Option.some.inj (hp.symm.trans hp')
  rfl

/-- The only commit to a stream, which another part has met in a conflict. -/
theorem Plays.exists_met (hplays : Plays parts s) (hs : Reachable T s) {key : StreamKey} {i j : Nat}
    {p q : Part σ ε} (hp : parts[i]? = some p)
    (h : s.isContended key i j q.store.config.maxConflictRetries = true) :
    ∃ h, (History.commitsOn key s.world.history).head? = some h ∧ h.author = some (p.caller i) ∧
      (q.caller j).MetAfter h s.world.history := by
  obtain ⟨hcommits, hmet⟩ := Bool.and_eq_true_iff.1 h
  obtain ⟨h, hh, hnumber⟩ := List.map_eq_singleton_iff.1 (of_decide_eq_true hcommits)
  obtain ⟨a, ha, hanumber⟩ := Option.map_eq_some_iff.1 hnumber
  have hmem : h ∈ History.commitsOn key s.world.history := hh ▸ List.mem_singleton_self h
  obtain ⟨call, hcall⟩ := hs.good.call_of_author (List.mem_filter.1 hmem).1 ha
  rw [hanumber] at hcall
  obtain rfl := hplays.caller_eq hp hcall
  refine ⟨h, by rw [hh, List.head?_cons], ha, ?_⟩
  obtain ⟨t, ht, hfacts⟩ := List.any_eq_true.1 hmet
  obtain ⟨hlength, hhead, hretries⟩ := of_decide_eq_true hfacts
  have hsuffix : t <:+ s.world.history := (List.mem_tails _ _).1 ht
  obtain ⟨n, hn, hconflict⟩ := Option.map_eq_some_iff.1 hhead
  obtain ⟨older, rfl⟩ := List.head?_eq_some_iff.1 hn
  obtain ⟨hnnumber, hconflict⟩ := Prod.mk.inj hconflict
  -- the one commit of that moment is the only one there is
  obtain ⟨k, hk⟩ := List.length_eq_one_iff.1 hlength
  have hkmem : k ∈ History.commitsOn key (n :: older) := hk ▸ List.mem_singleton_self k
  obtain ⟨hkmem, hkkey⟩ := List.mem_filter.1 hkmem
  obtain rfl : k = h := List.mem_singleton.1
    (hh ▸ List.mem_filter.2 ⟨History.mem_commits_of_suffix hsuffix hkmem, hkkey⟩)
  rw [History.commits_cons, Note.commit?_of_isConflict hconflict] at hkmem
  exact ⟨n, older, hsuffix, hnnumber, hconflict, hretries, hkmem⟩

/-- A turn is a step, if it does anything. -/
theorem runs_of_turn? (hparts : ∀ p ∈ parts, ∀ i, T.Admits (p.caller i)) (hs : Plays parts s)
    {i : Nat} (h : turn? parts s i = some s') : Runs T s s' ∧ Plays parts s' := by
  obtain ⟨p, hp, h⟩ := Option.bind_eq_some_iff.1 h
  split at h
  next hi =>
    obtain rfl := Option.some.inj h
    refine ⟨.single (.start (hparts p (List.mem_of_getElem? hp) i) hi), ?_⟩
    intro j c call hj
    rcases Nat.lt_or_ge j s.calls.length with hlt | hge
    · rw [List.getElem?_append_left hlt] at hj
      exact hs j c call hj
    · obtain rfl : j = i := by
        have := (List.getElem?_eq_some_iff.1 hj).1
        rw [List.length_append, List.length_singleton] at this
        omega
      subst hi
      rw [List.getElem?_concat_length] at hj
      obtain ⟨rfl, -⟩ := Prod.mk.inj (Option.some.inj hj)
      exact ⟨p, hp, rfl⟩
  next =>
    obtain ⟨⟨c, call⟩, hi, h⟩ := Option.bind_eq_some_iff.1 h
    obtain rfl := hs.caller_eq hp hi
    split at h
    next c' q next heq =>
      obtain ⟨rfl, rfl⟩ := Prod.mk.inj heq
      obtain ⟨⟨a, w⟩, hreply, h⟩ := Option.bind_eq_some_iff.1 h
      obtain rfl := Option.some.inj h
      refine ⟨.single (.answer hi ⟨w, World.answers_of_reply? hreply, rfl⟩), ?_⟩
      intro j c call hj
      by_cases hij : i = j
      · subst hij
        rw [List.getElem?_set_self (List.getElem?_eq_some_iff.1 hi).1] at hj
        obtain ⟨rfl, -⟩ := Prod.mk.inj (Option.some.inj hj)
        exact ⟨p, hp, rfl⟩
      · rw [List.getElem?_set_ne hij] at hj
        exact hs j c call hj
    next =>
      obtain rfl := Option.some.inj h
      exact ⟨.refl, hs⟩

/-- **What is played is a run.** -/
theorem runs_of_play? (hparts : ∀ p ∈ parts, ∀ i, T.Admits (p.caller i)) (hs : Plays parts s)
    {turns : List Nat} (h : play? parts s turns = some s') : Runs T s s' ∧ Plays parts s' := by
  induction turns generalizing s with
  | nil =>
    obtain rfl := Option.some.inj h
    exact ⟨.refl, hs⟩
  | cons i turns ih =>
    obtain ⟨s₁, hturn, h⟩ := Option.bind_eq_some_iff.1 h
    obtain ⟨hrun, hs₁⟩ := runs_of_turn? hparts hs hturn
    obtain ⟨hruns, hs'⟩ := ih hs₁ h
    exact ⟨hrun.trans hruns, hs'⟩

/-- What a check finds in a played system is found in a later one. -/
theorem exists_runs_of_play? (hparts : ∀ p ∈ parts, ∀ i, T.Admits (p.caller i)) (hs : Plays parts s)
    {turns : List Nat} {check : System σ ε → Bool}
    (h : (play? parts s turns).any check = true) :
    ∃ s', Runs T s s' ∧ Plays parts s' ∧ check s' = true := by
  obtain ⟨s', hplay, hcheck⟩ := (Option.any_eq_true _ _).1 h
  obtain ⟨hruns, hs'⟩ := runs_of_play? hparts hs hplay
  exact ⟨s', hruns, hs', hcheck⟩

/-- What a check finds in a system that is played from the beginning is found in a reachable one. -/
theorem exists_reachable_of_play? (hparts : ∀ p ∈ parts, ∀ i, T.Admits (p.caller i))
    {ttl : Nat → Duration} {turns : List Nat} {check : System σ ε → Bool}
    (h : (play? parts (initial T ttl) turns).any check = true) :
    ∃ s, Reachable T s ∧ Plays parts s ∧ check s = true := by
  obtain ⟨s, hruns, hrest⟩ := exists_runs_of_play? hparts (plays_initial T ttl parts) h
  exact ⟨s, ⟨ttl, hruns⟩, hrest⟩

end System

end EventLedger
