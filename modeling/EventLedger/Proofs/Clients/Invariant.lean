import EventLedger.Proofs.Clients.World
import Mathlib.Data.List.Nodup

/-!
# What every request keeps

The bookkeeping behind all that is said of clients.  Whatever the order of the requests, the stored
events of a stream are those of the beginning followed by the committed batches; cached streams and
snapshots tell the truth about them; and a batch is committed right behind the events that its
decision was made on.

## Main definitions

* `Setting.Tracked`, `Setting.Admits` — the streams and the calls that are spoken of.
* `Setting.Accounted` — what is known of an accepted commit.
* `Setting.Inv` — the invariant of the world.
* `Setting.Later`, `Setting.Since` — a later world; a later world in which a call itself committed
  nothing and met no conflict.
* `Setting.Missed` — a commit with the source of a call, which the call met by a conflict.
* `Setting.Permits`, `Setting.discipline` — the requests that a call may make.

## Main results

* `Setting.Inv.append` — a batch at the next numbers keeps the invariant.
* `Setting.Inv.serves` — **a permitted request keeps the invariant.**
* `Setting.Inv.later` — a permitted request leads to a later world.
-/

namespace EventLedger

variable {σ ε : Type}

namespace Setting

variable (T : Setting σ ε)

/-- The stream has no gaps at first. -/
def Tracked (key : StreamKey) : Prop := (T.log.stream key).GapFree

/-- The events of a stream after a history. -/
def eventsAfter (key : StreamKey) (t : History σ ε) : List CommittedEvent :=
  (T.log.stream key).values ++ History.stored key t

/-- The call is one of a store of this setting, on a stream without gaps, and its decision changes
the aggregate by emitting events only. -/
structure Admits (c : Caller σ ε) : Prop where
  fits : T.Fits c.store
  tracked : T.Tracked c.key
  emits : ∀ root root', c.mayDecide root (.ok root') → Root.Emits T.aggregate root root'

/-- The decision of the call, made on the aggregate after `es`, may emit `xs`. -/
def Decided (c : Caller σ ε) (es : List CommittedEvent) (xs : List ε) : Prop :=
  ∃ st root, T.Shows c.id es st ∧ c.mayDecide ⟨c.id, st, es.length, []⟩ (.ok root) ∧
    root.uncommitted = xs

/-- The last of the events carries the source. -/
def LastCarries (source : Option String) (es : List CommittedEvent) : Prop :=
  ∃ s e, source = some s ∧ es.getLast? = some e ∧ AggregateStore.carries s e = true

/-- What is known of a commit `h` that a call made after the history `t`. -/
structure Earned (t : History σ ε) (c : Caller σ ε) (h : Commit σ ε) : Prop where
  admits : T.Admits c
  key : h.key = c.key
  /-- The call had committed nothing before. -/
  first : ∀ h' ∈ History.commits t, h'.author.map (·.number) ≠ some c.number
  /-- Its batch identifier is a new one. -/
  fresh : ∀ e ∈ T.eventsAfter h.key t, e.batchId ≠ h.batchId
  /-- The batch is what the decision emits on the events before it. -/
  decided : ∃ xs, T.Decided c (T.eventsAfter h.key t) xs ∧
    List.Forall₂ (fun x e => T.Writes x e.type e.payload) xs h.stored
  source : ∀ e ∈ h.stored, e.metadata.sourceId = c.source
  /-- The event before the batch has another source. -/
  apart : ¬LastCarries c.source (T.eventsAfter h.key t)

/-- What is known of a commit `h` that was accepted after the history `t`. -/
structure Accounted (t : History σ ε) (h : Commit σ ε) : Prop where
  tracked : T.Tracked h.key
  nonempty : h.stored ≠ []
  batch : ∀ e ∈ h.stored, e.batchId = h.batchId
  outside : h.author = none → T.outsiders
  call : ∀ c, h.author = some c → T.Earned t c h

/-- The loaded stream is genuine and can be replayed. -/
def Faithful (id : AggregateId) (es : List CommittedEvent) (l : LoadedStream ε) : Prop :=
  T.Genuine id es l ∧ ∃ st, T.Shows id (es.take l.version) st

/-- What holds of the world at every moment. -/
structure Inv (w : World σ ε) : Prop where
  gapFree : ∀ key, T.Tracked key → (w.log.stream key).GapFree
  events : ∀ key, T.Tracked key → w.events key = T.eventsAfter key w.history
  accounted : ∀ n t h, n :: t <:+ w.history → n.commit? = some h → T.Accounted t h
  stamped : ∀ i, (w.caches i).Stamped
  marks_le : ∀ i key, T.Tracked key → w.marks i key ≤ (w.events key).length
  /-- A cached stream is no older than the last dropping of its key. -/
  cached : ∀ i key e, T.Tracked key → StreamCache.entry? (w.caches i) key = some e →
    T.Faithful key.id (w.events key) e.stream ∧ w.marks i key ≤ e.stream.version
  offered : ∀ s ∈ History.offered w.history, T.Tracked s.key →
    T.Sound s.key.id (w.events s.key) s
  issued : ((History.issued w.history).map (·.2)).Nodup
  /-- An identifier that was given out is carried only by the batch of the call that it was given
  to. -/
  owned : ∀ key, T.Tracked key → ∀ e ∈ w.events key, ∀ p ∈ History.issued w.history,
    p.2 = e.batchId → ∃ h ∈ History.commits w.history, h.author.map (·.number) = some p.1

/-- A later world. -/
structure Later (w w' : World σ ε) : Prop where
  history : w.history <:+ w'.history
  events : ∀ key, T.Tracked key → w.events key <+: w'.events key
  generation_le : ∀ i key, (w.caches i).generation key ≤ (w'.caches i).generation key
  /-- A key whose generation is the same was not dropped. -/
  marks_eq : ∀ i key, (w.caches i).generation key = (w'.caches i).generation key →
    w'.marks i key = w.marks i key
  marks_le : ∀ i key, T.Tracked key → w.marks i key ≤ w'.marks i key
  fired : ∀ number, w.fired number = true → w'.fired number = true

/-- The note is neither a commit nor a conflict. -/
def Quiet (n : Note σ ε) : Prop := n.commit? = none ∧ n.isConflict = false

/-- A later world in which the call has neither committed nor met a conflict since. -/
structure Since (c : Caller σ ε) (w w' : World σ ε) : Prop extends Later T w w' where
  quiet : ∃ new, w'.history = new ++ w.history ∧
    ∀ n ∈ new, n.number = some c.number → Quiet n

/-- A later world to which the call itself contributed nothing. -/
structure Rely (c : Caller σ ε) (w w' : World σ ε) : Prop extends Later T w w' where
  others : ∃ new, w'.history = new ++ w.history ∧ ∀ n ∈ new, n.number ≠ some c.number

end Setting

/-- The call met a conflict after the commit `h`, and could still retry. -/
def Caller.MetAfter (c : Caller σ ε) (h : Commit σ ε) (t : History σ ε) : Prop :=
  ∃ n t', n :: t' <:+ t ∧ n.number = some c.number ∧ n.isConflict = true ∧
    History.conflicts c.number (n :: t') ≤ c.store.config.maxConflictRetries ∧
    h ∈ History.commits t'

/-- What was met remains met. -/
theorem Caller.MetAfter.of_suffix {c : Caller σ ε} {h : Commit σ ε} {t t' : History σ ε}
    (hm : c.MetAfter h t) (ht : t <:+ t') : c.MetAfter h t' := by
  obtain ⟨n, u, hsuffix, hrest⟩ := hm
  exact ⟨n, u, hsuffix.trans ht, hrest⟩

theorem Caller.MetAfter.mem_commits {c : Caller σ ε} {h : Commit σ ε} {t : History σ ε}
    (hm : c.MetAfter h t) : h ∈ History.commits t := by
  obtain ⟨n, t', hsuffix, -, -, -, hmem⟩ := hm
  exact History.mem_commits_of_suffix ((List.suffix_cons n t').trans hsuffix) hmem

namespace Setting

variable (T : Setting σ ε)

/-- The call met a conflict after the commit `h`, which has its own source and still ends the
stream; and nothing keeps the call from finding that out. -/
structure Missed (c : Caller σ ε) (w : World σ ε) (h : Commit σ ε) : Prop where
  met : c.MetAfter h w.history
  author : ∃ d, h.author = some d ∧ d.source = c.source
  key : h.key = c.key
  source : c.source ≠ none
  last : h.stop = (w.events c.key).length
  live : w.fired c.number = false
  thorough : T.Thorough c.store.upgraders.maxPasses
  room : (w.events c.key).length < greatestSequence

/-- The batch is what the decision of the call emits on the first `V` events, numbered from `V + 1`
on, and unless further events were stored, the last of those has another source. -/
structure Proposes (c : Caller σ ε) (w : World σ ε) (V : Nat) (ps : List PendingEvent) : Prop where
  version_le : V ≤ (w.events c.key).length
  numbered : ps.map (·.sequence) = List.range' (V + 1) ps.length
  decided : ∃ xs, T.Decided c ((w.events c.key).take V) xs ∧
    List.Forall₂ (fun x p => T.Writes x p.type p.payload) xs ps
  source : ∀ p ∈ ps, p.metadata.sourceId = c.source
  apart : V < (w.events c.key).length ∨ ¬LastCarries c.source ((w.events c.key).take V)

/-- The requests that a call may make. -/
def Permits (c : Caller σ ε) (w : World σ ε) : StoreRequest σ ε → Prop
  | .storage (.commit key b ps) =>
    key = c.key ∧ (c.number, b) ∈ History.issued w.history ∧
      (∀ h ∈ History.commits w.history, h.author.map (·.number) ≠ some c.number) ∧
      (∃ V, T.Proposes c w V ps) ∧ ∀ h, ¬T.Missed c w h
  | .storage (.load ..) => True
  | .storage (.loadSnapshot _) => True
  | .storage (.storeSnapshot s) => s.key = c.key ∧ T.Sound c.key.id (w.events c.key) s
  | .storage _ => False
  | .keep key g l =>
    key = c.key ∧ T.Faithful c.key.id (w.events c.key) l ∧
      ((w.caches c.cache).generation key = g → w.marks c.cache key ≤ l.version)
  | .freshId => ∀ h, ¬T.Missed c w h
  | .decide _ => ∀ h, ¬T.Missed c w h
  | _ => True

variable {T} {c : Caller σ ε} {w w' w'' : World σ ε}

/-! ### Later worlds -/

theorem Later.refl (w : World σ ε) : T.Later w w :=
  ⟨List.suffix_refl _, fun _ _ => List.prefix_refl _, fun _ _ => Nat.le_refl _, fun _ _ _ => rfl,
    fun _ _ _ => Nat.le_refl _, fun _ h => h⟩

theorem Later.trans (h : T.Later w w') (h' : T.Later w' w'') : T.Later w w'' where
  history := h.history.trans h'.history
  events key hk := (h.events key hk).trans (h'.events key hk)
  generation_le i key := Nat.le_trans (h.generation_le i key) (h'.generation_le i key)
  marks_eq i key heq := by
    have hle := h.generation_le i key
    have hle' := h'.generation_le i key
    rw [h'.marks_eq i key (by omega), h.marks_eq i key (by omega)]
  marks_le i key hk := Nat.le_trans (h.marks_le i key hk) (h'.marks_le i key hk)
  fired number hf := h'.fired number (h.fired number hf)

theorem Since.refl (w : World σ ε) : T.Since c w w := ⟨.refl w, [], rfl, by simp⟩

theorem Since.trans (h : T.Since c w w') (h' : T.Since c w' w'') : T.Since c w w'' := by
  obtain ⟨hl, new, hnew, hq⟩ := h
  obtain ⟨hl', new', hnew', hq'⟩ := h'
  refine ⟨hl.trans hl', new' ++ new, by rw [hnew', hnew, List.append_assoc], ?_⟩
  intro n hn
  rcases List.mem_append.1 hn with hn | hn
  · exact hq' n hn
  · exact hq n hn

theorem Rely.refl (w : World σ ε) : T.Rely c w w := ⟨.refl w, [], rfl, by simp⟩

theorem Rely.trans (h : T.Rely c w w') (h' : T.Rely c w' w'') : T.Rely c w w'' := by
  obtain ⟨hl, new, hnew, hq⟩ := h
  obtain ⟨hl', new', hnew', hq'⟩ := h'
  refine ⟨hl.trans hl', new' ++ new, by rw [hnew', hnew, List.append_assoc], ?_⟩
  intro n hn
  rcases List.mem_append.1 hn with hn | hn
  · exact hq' n hn
  · exact hq n hn

theorem Rely.since (h : T.Rely c w w') : T.Since c w w' := by
  obtain ⟨hl, new, hnew, hq⟩ := h
  exact ⟨hl, new, hnew, fun n hn hc => absurd hc (hq n hn)⟩

theorem Later.events_length (h : T.Later w w') {key : StreamKey} (hk : T.Tracked key) :
    (w.events key).length ≤ (w'.events key).length :=
  (h.events key hk).length_le

theorem Later.take_events (h : T.Later w w') {key : StreamKey} (hk : T.Tracked key) {V : Nat}
    (hV : V ≤ (w.events key).length) : (w'.events key).take V = (w.events key).take V :=
  take_eq_take (h.events key hk) hV

theorem Faithful.mono {id : AggregateId} {es fs : List CommittedEvent} {l : LoadedStream ε}
    (h : T.Faithful id es l) (hle : es <+: fs) : T.Faithful id fs l := by
  obtain ⟨hl, hst⟩ := h
  refine ⟨hl.mono hle, ?_⟩
  rwa [take_eq_take hle hl.version_le]

/-! ### Notes that commit nothing -/

/-- A note that commits nothing keeps the invariant, if an identifier that it gives out is fresh and
a snapshot that it brings is sound. -/
theorem Inv.noted {n : Note σ ε} (hw : T.Inv w) (hc : n.commit? = none)
    (hi : ∀ p, n.issued? = some p → w.Fresh p.2)
    (ho : ∀ s, n.offered? = some s → T.Tracked s.key → T.Sound s.key.id (w.events s.key) s) :
    T.Inv (w.noted n) where
  gapFree := hw.gapFree
  events key hk := by
    rw [show (w.noted n).events key = w.events key from rfl, hw.events key hk]
    simp only [eventsAfter, World.noted, History.stored_cons_of_none hc]
  accounted n' t h hsuffix hh := by
    rcases List.suffix_cons_iff.1 hsuffix with heq | hsuffix
    · obtain ⟨rfl, -⟩ := List.cons.inj heq
      rw [hc] at hh
      cases hh
    · exact hw.accounted n' t h hsuffix hh
  stamped := hw.stamped
  marks_le := hw.marks_le
  cached := hw.cached
  offered s hs hk := by
    rw [World.noted, History.offered_cons, List.mem_append, Option.mem_toList] at hs
    rcases hs with hs | hs
    · exact ho s hs hk
    · exact hw.offered s hs hk
  issued := by
    rw [World.noted, History.issued_cons, List.map_append]
    cases hissued : n.issued? with
    | none => exact hw.issued
    | some p =>
      refine List.nodup_cons.2 ⟨?_, hw.issued⟩
      intro hmem
      obtain ⟨p', hp', heq⟩ := List.mem_map.1 hmem
      exact (hi p hissued).1 p' hp' heq
  owned key hk e he p hp heq := by
    have hold : p ∈ History.issued w.history := by
      rw [World.noted, History.issued_cons, List.mem_append, Option.mem_toList] at hp
      rcases hp with hp | hp
      · exact absurd heq.symm ((hi p hp).2 key e he)
      · exact hp
    obtain ⟨h, hh, hauthor⟩ := hw.owned key hk e he p hold heq
    exact ⟨h, History.mem_commits_of_suffix (List.suffix_cons n _) hh, hauthor⟩

theorem Later.noted (w : World σ ε) (n : Note σ ε) : T.Later w (w.noted n) :=
  { Later.refl w with history := List.suffix_cons n _ }

/-! ### Caches -/

theorem withCache_caches (w : World σ ε) (i j : Nat) (cache : StreamCache (LoadedStream ε)) :
    (w.withCache i cache).caches j = if j = i then cache else w.caches j := by
  simp [World.withCache, Function.update_apply]

/-- A cache whose streams are true and new enough keeps the invariant. -/
theorem Inv.withCache {i : Nat} {cache : StreamCache (LoadedStream ε)} (hw : T.Inv w)
    (hstamped : cache.Stamped)
    (hcached : ∀ key e, T.Tracked key → cache.entry? key = some e →
      T.Faithful key.id (w.events key) e.stream ∧ w.marks i key ≤ e.stream.version) :
    T.Inv (w.withCache i cache) where
  gapFree := hw.gapFree
  events := hw.events
  accounted := hw.accounted
  stamped j := by
    rw [withCache_caches]
    split
    · exact hstamped
    · exact hw.stamped j
  marks_le := hw.marks_le
  cached j key e hk he := by
    rw [withCache_caches] at he
    split at he
    next hj =>
      subst hj
      exact hcached key e hk he
    next => exact hw.cached j key e hk he
  offered := hw.offered
  issued := hw.issued
  owned := hw.owned

/-- A cache that keeps its generations leads to a later world. -/
theorem Later.withCache {i : Nat} {cache : StreamCache (LoadedStream ε)}
    (hgen : ∀ key, (w.caches i).generation key ≤ cache.generation key) :
    T.Later w (w.withCache i cache) :=
  { Later.refl w with
    generation_le := by
      intro j key
      rw [withCache_caches]
      split
      next hj => exact hj ▸ hgen key
      next => exact Nat.le_refl _
    marks_eq := fun _ _ _ => rfl }

/-- Giving out a cached stream keeps the invariant. -/
theorem Inv.get {i : Nat} {key : StreamKey} {now : Instant} (hw : T.Inv w) :
    T.Inv (w.withCache i ((w.caches i).get key now).2) :=
  hw.withCache (hw.stamped i).get fun key' e hk he =>
    hw.cached i key' e hk (StreamCache.entry?_get he)

/-- Keeping a stream keeps the invariant, if it is true and, unless its key was dropped meanwhile,
new enough. -/
theorem Inv.insert {i : Nat} {key : StreamKey} {g : Nat} {l : LoadedStream ε} {now : Instant}
    (hw : T.Inv w) (hl : T.Faithful key.id (w.events key) l)
    (hmark : (w.caches i).generation key = g → w.marks i key ≤ l.version) :
    T.Inv (w.withCache i ((w.caches i).insert key g l now).2) := by
  refine hw.withCache (hw.stamped i).insert ?_
  intro key' e hk he
  rcases StreamCache.entry?_insert he with ⟨rfl, hg, rfl⟩ | he
  · exact ⟨hl, hmark hg⟩
  · exact hw.cached i key' e hk he

/-- Clearing a cache keeps the invariant. -/
theorem Inv.clear {i : Nat} (hw : T.Inv w) : T.Inv (w.withCache i (w.caches i).clear) :=
  hw.withCache .clear fun key e _ he => by
    rw [StreamCache.entry?_clear] at he
    cases he

theorem Later.clear {i : Nat} (hw : T.Inv w) :
    T.Later w (w.withCache i (w.caches i).clear) :=
  .withCache fun key => by
    rw [StreamCache.generation_clear]
    exact Nat.le_succ_of_le (hw.stamped i key)

theorem marked_caches (w : World σ ε) (i : Nat) (key : StreamKey) :
    (w.marked i key).caches = w.caches := rfl

theorem marked_marks (w : World σ ε) (i j : Nat) (key key' : StreamKey) :
    (w.marked i key).marks j key' =
      if j = i ∧ key' = key then (w.events key).length else w.marks j key' := by
  unfold World.marked
  simp only [Function.update_apply]
  by_cases hj : j = i
  · subst hj
    by_cases hk : key' = key <;> simp [hk]
  · simp [hj]

/-- Dropping a key keeps the invariant. -/
theorem Inv.invalidate {i : Nat} {key : StreamKey} (hw : T.Inv w) :
    T.Inv ((w.withCache i ((w.caches i).invalidate key)).marked i key) where
  gapFree := hw.gapFree
  events := hw.events
  accounted := hw.accounted
  stamped j := by
    rw [marked_caches, withCache_caches]
    split
    · exact (hw.stamped i).invalidate
    · exact hw.stamped j
  marks_le j key' hk := by
    rw [marked_marks]
    split
    next heq => exact Nat.le_of_eq (by rw [heq.2]; rfl)
    next => exact hw.marks_le j key' hk
  cached j key' e hk he := by
    rw [marked_caches, withCache_caches] at he
    rw [marked_marks]
    by_cases hj : j = i
    · subst hj
      rw [if_pos rfl] at he
      obtain ⟨hne, he⟩ := StreamCache.entry?_invalidate he
      rw [if_neg fun heq => hne heq.2.symm]
      exact hw.cached j key' e hk he
    · rw [if_neg hj] at he
      rw [if_neg fun heq => hj heq.1]
      exact hw.cached j key' e hk he
  offered := hw.offered
  issued := hw.issued
  owned := hw.owned

theorem Later.invalidate {i : Nat} {key : StreamKey} (hw : T.Inv w) :
    T.Later w ((w.withCache i ((w.caches i).invalidate key)).marked i key) :=
  { Later.refl w with
    generation_le := by
      intro j key'
      rw [marked_caches, withCache_caches]
      split
      next hj =>
        subst hj
        rw [StreamCache.generation_invalidate (hw.stamped j)]
        split
        · exact Nat.le_succ_of_le (hw.stamped j key')
        · exact Nat.le_refl _
      next => exact Nat.le_refl _
    marks_eq := by
      intro j key' heq
      rw [marked_caches, withCache_caches] at heq
      rw [marked_marks]
      split
      next hjk =>
        -- a dropped key has a new generation
        obtain ⟨rfl, rfl⟩ := hjk
        rw [if_pos rfl, StreamCache.generation_invalidate (hw.stamped j), if_pos rfl] at heq
        have := hw.stamped j key'
        omega
      next => rfl
    marks_le := by
      intro j key' hk
      rw [marked_marks]
      split
      next heq => exact heq.2 ▸ hw.marks_le j key' hk
      next => exact Nat.le_refl _ }

/-! ### Commits -/

theorem stream_appended (hw : T.Inv w) {key : StreamKey} {es : List CommittedEvent}
    (hes : es.map (·.sequence) = List.range' ((w.events key).length + 1) es.length)
    (key' : StreamKey) (hk : T.Tracked key') :
    ((w.appended key es).log.stream key').GapFree ∧
      (w.appended key es).events key' = w.events key' ++ if key = key' then es else [] := by
  unfold World.events World.appended
  simp only [EventLog.stream_append]
  split
  next heq =>
    subst heq
    exact (hw.gapFree key hk).foldl_insert hes
  next => exact ⟨hw.gapFree key' hk, (List.append_nil _).symm⟩

theorem Later.appended (hw : T.Inv w) {key : StreamKey} {es : List CommittedEvent}
    (hes : es.map (·.sequence) = List.range' ((w.events key).length + 1) es.length) :
    T.Later w (w.appended key es) :=
  { Later.refl w with
    events := by
      intro key' hk
      rw [(stream_appended hw hes key' hk).2]
      exact List.prefix_append _ _ }

/-- **A batch at the next numbers keeps the invariant**, if it is accounted for and its identifier
was given out to nobody else. -/
theorem Inv.append {n : Note σ ε} {h : Commit σ ε} (hw : T.Inv w) (hn : n.commit? = some h)
    (hes : h.stored.map (·.sequence) =
      List.range' ((w.events h.key).length + 1) h.stored.length)
    (hacc : T.Accounted w.history h)
    (howned : ∀ p ∈ History.issued w.history, p.2 = h.batchId →
      h.author.map (·.number) = some p.1) :
    T.Inv ((w.appended h.key h.stored).noted n) := by
  have hlater := Later.appended hw hes
  have hissued : History.issued ((w.appended h.key h.stored).noted n).history =
      History.issued w.history := by
    rw [World.noted, History.issued_cons, Note.issued?_of_commit? hn]
    rfl
  have hevents : ∀ key, T.Tracked key → ((w.appended h.key h.stored).noted n).events key =
      w.events key ++ if h.key = key then h.stored else [] :=
    fun key hk => (stream_appended hw hes key hk).2
  exact
    { gapFree := fun key hk => (stream_appended hw hes key hk).1
      events := by
        intro key hk
        rw [hevents key hk, hw.events key hk, eventsAfter, List.append_assoc,
          ← History.stored_cons_of_some hn]
        rfl
      accounted := by
        intro n' t h' hsuffix hh
        rcases List.suffix_cons_iff.1 hsuffix with heq | hsuffix
        · obtain ⟨rfl, rfl⟩ := List.cons.inj heq
          obtain rfl : h = h' := by simpa [hn] using hh
          exact hacc
        · exact hw.accounted n' t h' hsuffix hh
      stamped := hw.stamped
      marks_le := fun i key hk =>
        Nat.le_trans (hw.marks_le i key hk) (hlater.events_length hk)
      cached := by
        intro i key e hk he
        obtain ⟨hfaithful, hmark⟩ := hw.cached i key e hk he
        exact ⟨hfaithful.mono (hlater.events key hk), hmark⟩
      offered := by
        intro s hs hk
        rw [World.noted, History.offered_cons, Note.offered?_of_commit? hn] at hs
        exact (hw.offered s hs hk).mono (hlater.events s.key hk)
      issued := by
        rw [hissued]
        exact hw.issued
      owned := by
        intro key hk e he p hp heq
        rw [hissued] at hp
        rw [hevents key hk, List.mem_append] at he
        rcases he with he | he
        · obtain ⟨h', hh', hauthor⟩ := hw.owned key hk e he p hp heq
          exact ⟨h', History.mem_commits_of_suffix (List.suffix_cons n _) hh', hauthor⟩
        · -- an event of the new batch
          refine ⟨h, by simp [World.noted, History.commits_cons, hn], ?_⟩
          split at he
          · exact howned p hp (heq.trans (hacc.batch e he))
          · simp at he }

/-- **A proposed batch is accepted only right behind the events that it was decided on**: its
identifier is a new one, so it cannot be there already. -/
theorem Inv.commit {b : Uuid} {ps : List PendingEvent} {V : Nat} {stored : List CommittedEvent}
    (hw : T.Inv w) (hc : T.Admits c) (hb : (c.number, b) ∈ History.issued w.history)
    (hfirst : ∀ h ∈ History.commits w.history, h.author.map (·.number) ≠ some c.number)
    (hps : T.Proposes c w V ps) (hok : (w.log.commit c.key b ps).1 = .ok stored) :
    V = (w.events c.key).length ∧ stored = EventLog.number c.key b w.log.lastGlobal ps ∧
      (w.log.commit c.key b ps).2 = w.log.append c.key stored := by
  have hgap := hw.gapFree c.key hc.tracked
  rcases EventLog.commit_ok hgap hps.numbered hps.version_le hok with happend | ⟨hV, -, rfl, hall⟩
  · exact happend
  · -- a batch that is there already would have been committed by this call before
    exfalso
    cases ps with
    | nil => exact EventLog.ne_nil_of_commit hok rfl
    | cons p ps =>
      obtain ⟨e, rest, hstored⟩ : ∃ e rest,
          ((w.log.stream c.key).values.drop V).take (ps.length + 1) = e :: rest := by
        rw [List.drop_eq_getElem_cons hV, List.take_succ_cons]
        exact ⟨_, _, rfl⟩
      rw [List.length_cons, hstored] at hall
      have hsame : e.batchId = b := by
        have := (List.forall₂_cons.1 hall).1
        simp only [PendingEvent.isCommittedAs, Bool.and_eq_true, beq_iff_eq] at this
        exact this.1.1.1
      have hmem : e ∈ w.events c.key :=
        List.mem_of_mem_drop (List.mem_of_mem_take (hstored ▸ List.mem_cons_self))
      obtain ⟨h, hh, hauthor⟩ := hw.owned c.key hc.tracked e hmem _ hb hsame.symm
      exact hfirst h hh hauthor

/-! ### Requests -/

theorem writes_number {key : StreamKey} {b : Uuid} {xs : List ε} {ps : List PendingEvent}
    (h : List.Forall₂ (fun x p => T.Writes x p.type p.payload) xs ps) : ∀ g : Nat,
    List.Forall₂ (fun x e => T.Writes x e.type e.payload) xs (EventLog.number key b g ps) := by
  induction h with
  | nil => exact fun _ => .nil
  | cons hx _ ih => exact fun g => .cons hx (ih (g + 1))

/-- The commit of a proposed batch right behind the events that it was decided on is accounted for.
-/
theorem Inv.accounted_commit {b : Uuid} {ps : List PendingEvent} {V g : Nat} (hw : T.Inv w)
    (hc : T.Admits c) (hb : (c.number, b) ∈ History.issued w.history)
    (hfirst : ∀ h ∈ History.commits w.history, h.author.map (·.number) ≠ some c.number)
    (hps : T.Proposes c w V ps) (hne : ps ≠ []) (hV : V = (w.events c.key).length) :
    T.Accounted w.history ⟨some c, c.key, b, EventLog.number c.key b g ps⟩ where
  tracked := hc.tracked
  nonempty hnil := hne (by simpa [EventLog.length_number] using congrArg List.length hnil)
  batch e he := (EventLog.mem_number he).1
  outside h := by cases h
  call d hd := by
    obtain rfl : c = d := by simpa using hd
    have htake : (w.events c.key).take V = T.eventsAfter c.key w.history := by
      rw [hV, List.take_length, hw.events c.key hc.tracked]
    exact
      { admits := hc
        key := rfl
        first := hfirst
        fresh := by
          intro e he heq
          rw [← hw.events c.key hc.tracked] at he
          obtain ⟨h, hh, hauthor⟩ := hw.owned c.key hc.tracked e he _ hb heq.symm
          exact hfirst h hh hauthor
        decided := by
          obtain ⟨xs, hxs, hwrites⟩ := hps.decided
          exact ⟨xs, htake ▸ hxs, writes_number hwrites g⟩
        source := by
          intro e he
          obtain ⟨-, p, hp, hm⟩ := EventLog.mem_number he
          rw [hm, hps.source p hp]
        apart := by
          rcases hps.apart with hlt | hapart
          · omega
          · exact htake ▸ hapart }

/-- What a commit of a call does: it is refused and changes nothing, or the proposed batch is put
right behind the events that it was decided on. -/
theorem Inv.answers_commit {b : Uuid} {ps : List PendingEvent} {V : Nat}
    {a : Except Error (List CommittedEvent)} (hw : T.Inv w) (hc : T.Admits c)
    (hb : (c.number, b) ∈ History.issued w.history)
    (hfirst : ∀ h ∈ History.commits w.history, h.author.map (·.number) ≠ some c.number)
    (hps : T.Proposes c w V ps) (ha : w.answersStorage c (.commit c.key b ps) a w') :
    (∃ e, a = .error e ∧ w' = w) ∨
    (V = (w.events c.key).length ∧ ∃ stored, a = .ok stored ∧
      stored.map (·.sequence) = List.range' (V + 1) stored.length ∧
      T.Accounted w.history ⟨some c, c.key, b, stored⟩ ∧
      (∀ xs, List.Forall₂ (fun x p => T.Writes x p.type p.payload) xs ps →
        List.Forall₂ (fun x e => T.Writes x e.type e.payload) xs stored) ∧
      w' = w.appended c.key stored) := by
  obtain ⟨rfl, rfl⟩ := World.answersStorage_commit.1 ha
  cases hr : (w.log.commit c.key b ps).1 with
  | error e => exact .inl ⟨e, rfl, by rw [EventLog.commit_error hr]⟩
  | ok stored =>
    obtain ⟨hV, rfl, hlog⟩ := hw.commit hc hb hfirst hps hr
    refine .inr ⟨hV, _, rfl, ?_, ?_, fun xs hxs => writes_number hxs _, by rw [hlog]; rfl⟩
    · rw [EventLog.map_sequence_number, EventLog.length_number, hps.numbered]
    · exact hw.accounted_commit hc hb hfirst hps (EventLog.ne_nil_of_commit hr) hV

/-- Other requests than commits leave the events and the history as they are. -/
theorem Inv.answers_other {q : StoreRequest σ ε} {a : q.Answer} (hw : T.Inv w)
    (hq : T.Permits c w q) (hother : ∀ key b ps, q ≠ .storage (.commit key b ps))
    (ha : w.answers c q a w') : T.Inv w' ∧ T.Later w w' ∧ w'.history = w.history ∧
      ∀ key, w'.events key = w.events key := by
  have hsame : T.Inv w ∧ T.Later w w ∧ w.history = w.history ∧
      ∀ key, w.events key = w.events key := ⟨hw, .refl w, rfl, fun _ => rfl⟩
  cases q with
  | storage q =>
    cases q with
    | commit key b ps => exact absurd rfl (hother key b ps)
    | load key start =>
      obtain ⟨-, rfl⟩ := World.answersStorage_load.1 ha
      exact hsame
    | loadSnapshot key =>
      obtain ⟨-, rfl⟩ := ha
      exact hsame
    | storeSnapshot s =>
      obtain rfl : w' = w := ha
      exact hsame
    | page => exact hq.elim
    | delete => exact hq.elim
    | deleteSnapshots => exact hq.elim
  | cached key =>
    obtain ⟨now, -, rfl⟩ := ha
    exact ⟨hw.get, .withCache fun _ => Nat.le_of_eq StreamCache.generation_get.symm, rfl,
      fun _ => rfl⟩
  | keep key g l =>
    obtain ⟨now, -, rfl⟩ := ha
    obtain ⟨rfl, hl, hmark⟩ := hq
    exact ⟨hw.insert hl hmark, .withCache fun _ => Nat.le_of_eq StreamCache.generation_insert.symm,
      rfl, fun _ => rfl⟩
  | invalidate key =>
    obtain rfl := ha
    exact ⟨hw.invalidate, .invalidate hw, rfl, fun _ => rfl⟩
  | generation key =>
    obtain ⟨-, rfl⟩ := ha
    exact hsame
  | readState state =>
    obtain ⟨-, rfl⟩ := ha
    exact hsame
  | isCancelled =>
    obtain ⟨-, rfl⟩ := ha
    exact hsame
  | pause d =>
    obtain ⟨-, rfl⟩ := ha
    exact hsame
  | now =>
    obtain rfl : w' = w := ha
    exact hsame
  | freshId =>
    obtain ⟨-, rfl⟩ := ha
    exact hsame
  | roll =>
    obtain rfl : w' = w := ha
    exact hsame
  | decide root =>
    obtain ⟨-, rfl⟩ := ha
    exact hsame

/-- A note of another request than a commit that the call may make. -/
theorem Inv.noted_other {q : StoreRequest σ ε} {a : q.Answer} (hw : T.Inv w)
    (hq : T.Permits c w q) (hother : ∀ key b ps, q ≠ .storage (.commit key b ps))
    (ha : w.answers c q a w') : T.Inv (w'.noted ⟨some c, q, a⟩) := by
  obtain ⟨hw', -, hhistory, hevents⟩ := hw.answers_other hq hother ha
  have hplain : Note.commit? ⟨some c, q, a⟩ = none := by
    cases q with
    | storage q =>
      cases q with
      | commit key b ps => exact absurd rfl (hother key b ps)
      | _ => rfl
    | _ => rfl
  refine hw'.noted hplain ?_ ?_
  · intro p hp
    cases q with
    | freshId =>
      obtain rfl := Option.some.inj hp
      obtain ⟨hfresh, rfl⟩ := ha
      exact hfresh
    | _ => simp [Note.issued?] at hp
  · intro s hs hk
    cases q with
    | storage q =>
      cases q with
      | storeSnapshot s' =>
        obtain rfl : s' = s := by simpa [Note.offered?] using hs
        obtain ⟨hkey, hsound⟩ := hq
        rw [hevents, hkey]
        exact hsound
      | _ => simp [Note.offered?] at hs
    | _ => simp [Note.offered?] at hs

/-- **A permitted request keeps the invariant**, and leads to a later world in which it is noted. -/
theorem Inv.serves {q : StoreRequest σ ε} {a : q.Answer} (hw : T.Inv w) (hc : T.Admits c)
    (hq : T.Permits c w q) (h : w.serves c q a w') :
    T.Inv w' ∧ T.Later w w' ∧ w'.history = ⟨some c, q, a⟩ :: w.history := by
  obtain ⟨w₁, ha, rfl⟩ := h
  by_cases hother : ∀ key b ps, q ≠ .storage (.commit key b ps)
  · obtain ⟨-, hlater, hhistory, -⟩ := hw.answers_other hq hother ha
    exact ⟨hw.noted_other hq hother ha, hlater.trans (.noted w₁ _), by rw [World.noted, hhistory]⟩
  · push Not at hother
    obtain ⟨key, b, ps, rfl⟩ := hother
    obtain ⟨rfl, hb, hfirst, ⟨V, hps⟩, -⟩ := hq
    rcases hw.answers_commit hc hb hfirst hps ha with
      ⟨e, rfl, rfl⟩ | ⟨rfl, stored, rfl, hnumbered, hacc, -, rfl⟩
    · exact ⟨hw.noted rfl (fun p hp => by cases hp) (fun s hs => by cases hs), .noted w₁ _, rfl⟩
    · refine ⟨hw.append (h := ⟨some c, c.key, b, stored⟩) rfl hnumbered hacc ?_,
        (Later.appended hw hnumbered).trans (.noted _ _), rfl⟩
      -- the identifier was given out once, to this call
      intro p hp heq
      have hsame : p = (c.number, b) :=
        List.inj_on_of_nodup_map hw.issued hp hb heq
      rw [hsame]
      rfl

/-! ### The discipline of a call -/

/-- How a call behaves in the world that it shares. -/
def discipline (T : Setting σ ε) (c : Caller σ ε) (hc : T.Admits c) :
    Discipline (storeInterface σ ε) (World σ ε) where
  serves w q a w' := w.serves c q a w'
  inv := T.Inv
  rely := T.Rely c
  asks := T.Permits c
  rely_trans := Rely.trans
  keeps_inv hw hq h := (hw.serves hc hq h).1

/-- A request of the call that is neither a commit nor meets a conflict. -/
theorem Since.of_serves {q : StoreRequest σ ε} {a : q.Answer} (hw : T.Inv w) (hc : T.Admits c)
    (hq : T.Permits c w q) (hquiet : Quiet ⟨some c, q, a⟩) (h : w.serves c q a w') :
    T.Since c w w' := by
  obtain ⟨-, hlater, hhistory⟩ := hw.serves hc hq h
  refine ⟨hlater, [⟨some c, q, a⟩], hhistory, ?_⟩
  intro n hn _
  obtain rfl := List.mem_singleton.1 hn
  exact hquiet

/-- What another call does, a call may rely on. -/
theorem Rely.of_serves {d : Caller σ ε} {q : StoreRequest σ ε} {a : q.Answer} (hw : T.Inv w)
    (hd : T.Admits d) (hne : d.number ≠ c.number) (hq : T.Permits d w q) (h : w.serves d q a w') :
    T.Rely c w w' := by
  obtain ⟨-, hlater, hhistory⟩ := hw.serves hd hq h
  refine ⟨hlater, [⟨some d, q, a⟩], hhistory, ?_⟩
  intro n hn
  obtain rfl := List.mem_singleton.1 hn
  simpa [Note.number] using hne

end Setting

end EventLedger
