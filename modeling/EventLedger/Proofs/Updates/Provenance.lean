import EventLedger.Proofs.Metadata
import EventLedger.Proofs.Updates.Outcome

/-!
# Where metadata come from

Later updates trust the source and the batch that are stored with an event, so nobody but the store
may write them.  Each event of a batch gets the reserved entries first.  Providers are shown these
and nothing else, and what they return is taken as a whole: one reserved key, or one key twice,
among the entries for any event of the batch, and the whole update is refused before it commits.

## Main definitions

* `Clash providers context` — what providers return for an event cannot be taken.
* `AggregateStore.shown` — what providers are shown of the events of a batch.
* `CommittedEvent.Attested` — the metadata of a stored event tell the truth about it.
* `Vouches t r` — the turns of an update that ends with `r` have let no other metadata through.

## Main results

* `AggregateStore.prepares_of_pendingEvents` — what it means that a batch was prepared.
* `AggregateStore.vouches_of_update` — **the metadata of committed events cannot be forged.**
-/

namespace EventLedger

open Call (Asks Ends RunsTo)

variable {σ ε : Type}

/-! ### What providers return -/

/-- The keys of the entries that a provider returns for an event. -/
def MetadataProvider.keys (p : MetadataProvider) (context : EventContext) : List String :=
  match p with
  | .eventId => [eventIdKey]
  | .rule f => (f context).map (·.1)

theorem MetadataProvider.map_entries (p : MetadataProvider) (fresh : Uuid) (context : EventContext) :
    (p.entries fresh context).map (·.1) = p.keys context := by
  cases p <;> rfl

/-- Some provider returns a reserved key for the event, or two returned entries share a key. -/
def Clash (providers : List MetadataProvider) (context : EventContext) : Prop :=
  (∃ p ∈ providers, ∃ k ∈ p.keys context, Metadata.isReserved k = true) ∨
    ¬(providers.flatMap fun p => p.keys context).Nodup

/-- The entry is one that some provider returns for the event, with an identifier of `issued` if it
uses one. -/
def Returned (providers : List MetadataProvider) (issued : List Uuid) (context : EventContext)
    (e : String × String) : Prop :=
  ∃ p ∈ providers, ∃ fresh ∈ issued, e ∈ p.entries fresh context

/-- The reserved entries of a stored event. -/
def CommittedEvent.reserved (e : CommittedEvent) : Metadata :=
  e.metadata.filter fun k _ => Metadata.isReserved k

/-- The metadata of a stored event tell the truth about it: the reserved entries are those of the
event itself, and every other entry is one that some provider returned when it was shown the event
with its reserved entries. -/
structure CommittedEvent.Attested (providers : List MetadataProvider) (issued : List Uuid)
    (time : Instant) (source : Option String) (e : CommittedEvent) : Prop where
  aggregateId : e.metadata.get? Metadata.aggregateIdKey = some e.key.id.value
  aggregateName : e.metadata.get? Metadata.aggregateNameKey = some e.key.name
  sequence : e.metadata.get? Metadata.sequenceKey = some (toString e.sequence)
  eventName : e.metadata.get? Metadata.eventNameKey = some e.type.name
  eventVersion : e.metadata.get? Metadata.eventVersionKey = some (toString e.type.version)
  batchId : e.metadata.get? Metadata.batchIdKey = some e.batchId.text
  timestamp : e.metadata.get? Metadata.timestampKey = some time.text
  source : e.metadata.get? Metadata.sourceIdKey = source
  others : ∀ k v, e.metadata.get? k = some v → Metadata.isReserved k = false →
    Returned providers issued ⟨e.key, e.type, e.payload, e.reserved⟩ (k, v)

theorem Returned.mono {providers : List MetadataProvider} {issued issued' : List Uuid}
    {context : EventContext} {e : String × String} (h : Returned providers issued context e)
    (hle : ∀ b ∈ issued, b ∈ issued') : Returned providers issued' context e := by
  obtain ⟨p, hp, fresh, hfresh, he⟩ := h
  exact ⟨p, hp, fresh, hle fresh hfresh, he⟩

theorem CommittedEvent.Attested.mono {providers : List MetadataProvider} {issued issued' : List Uuid}
    {time : Instant} {source : Option String} {e : CommittedEvent}
    (h : e.Attested providers issued time source) (hle : ∀ b ∈ issued, b ∈ issued') :
    e.Attested providers issued' time source :=
  { h with others := fun k v hv hk => (h.others k v hv hk).mono hle }

namespace AggregateStore

variable {store : AggregateStore σ ε} {key : StreamKey} {timestamp : String} {b : Uuid}
  {source : Option String}

/-- What providers are shown of the events of a batch, up to the first event that cannot be written
or has no number. -/
def shown (store : AggregateStore σ ε) (key : StreamKey) (timestamp : String) (b : Uuid)
    (source : Option String) : Nat → List ε → List EventContext
  | _, [] => []
  | version, x :: rest =>
    if greatestSequence ≤ version then []
    else
      let type := store.aggregate.typeOf x
      match store.codec.writeEvent x with
      | .error _ => []
      | .ok payload =>
        ⟨key, type, payload, reservedMetadata key (version + 1) type timestamp b source⟩ ::
          shown store key timestamp b source (version + 1) rest

/-- The emitted event `x` is prepared as `p`: with its type and payload, the reserved entries, and
entries that providers returned when they were shown no more than these. -/
structure Prepares (store : AggregateStore σ ε) (issued : List Uuid) (key : StreamKey)
    (timestamp : String) (b : Uuid) (source : Option String) (x : ε) (p : PendingEvent) : Prop where
  type : p.type = store.aggregate.typeOf x
  payload : store.codec.writeEvent x = .ok p.payload
  reserved : ∀ k, Metadata.isReserved k = true →
    p.metadata.get? k = (reservedMetadata key p.sequence p.type timestamp b source).get? k
  others : ∀ k v, p.metadata.get? k = some v → Metadata.isReserved k = false →
    Returned store.providers issued
      ⟨key, p.type, p.payload, reservedMetadata key p.sequence p.type timestamp b source⟩ (k, v)

/-- An event that is stored as it was prepared is attested. -/
theorem Prepares.attested {issued : List Uuid} {time : Instant} {x : ε} {p : PendingEvent}
    {e : CommittedEvent} (h : Prepares store issued key time.text b source x p)
    (he : e = p.commit key b e.globalSequence) :
    e.Attested store.providers issued time source := by
  obtain ⟨htype, hpayload, hreserved, hothers⟩ := h
  have hget : ∀ k, Metadata.isReserved k = true → e.metadata.get? k =
      (reservedMetadata e.key e.sequence e.type time.text e.batchId source).get? k := by
    rw [he]
    exact hreserved
  -- the reserved entries are all that the store itself wrote
  have hshown : e.reserved =
      reservedMetadata e.key e.sequence e.type time.text e.batchId source := by
    refine OrderedMap.ext_get? fun k => ?_
    rw [CommittedEvent.reserved, OrderedMap.get?_filter]
    cases hk : Metadata.isReserved k with
    | true =>
      rw [hget k hk]
      cases (reservedMetadata e.key e.sequence e.type time.text e.batchId source).get? k <;> rfl
    | false =>
      cases hv : (reservedMetadata e.key e.sequence e.type time.text e.batchId source).get? k with
      | none => cases e.metadata.get? k <;> rfl
      | some v =>
        rw [isReserved_of_reservedMetadata _ _ _ _ _ _ hv] at hk
        cases hk
  constructor
  case others =>
    intro k v hv hk
    rw [hshown]
    rw [he] at hv ⊢
    exact hothers k v hv hk
  case source =>
    rw [hget _ rfl]
    exact sourceId_reservedMetadata ..
  all_goals
    rw [hget _ rfl, get?_reservedMetadata]
    cases source <;> rfl

variable {s s' : Scene σ ε}

/-- The entries of all providers, in turn. -/
theorem returns_of_providedEntries {context : EventContext} : ∀ {providers : List MetadataProvider}
    {s : Scene σ ε} {r : Except Error (List (String × String))}, s.Inv →
    RunsTo Scene.Goes (providedEntries context providers) s r s' →
    ∃ entries, r = .ok entries ∧
      entries.map (·.1) = providers.flatMap (fun p => p.keys context) ∧
      ∀ e ∈ entries, Returned providers s'.issued context e
  | [], s, r, _, hrun => by
    cases hrun
    exact ⟨[], rfl, rfl, by simp⟩
  | p :: rest, s, r, h, hrun => by
    rcases hrun.of_bind with ⟨fresh, s₁, hfresh, hrun⟩ | ⟨e, hfresh, -⟩
    · obtain ⟨a, ha, hgoes⟩ := hfresh.of_ask
      obtain rfl := Except.ok.inj ha
      have h₁ := h.goes hgoes
      have hissued : fresh ∈ s₁.issued := by
        obtain ⟨s₀, -, l, -, rfl⟩ := hgoes
        exact List.mem_cons_self
      rcases hrun.of_bind with ⟨more, s₂, hmore, hrun⟩ | ⟨e, hmore, -⟩
      · cases hrun
        obtain ⟨entries, hentries, hkeys, hall⟩ := returns_of_providedEntries h₁ hmore
        obtain rfl := Except.ok.inj hentries
        have hkept := (rests_of_asks (asks_providedEntries trivial _ _) hmore h₁).issued
        refine ⟨_, rfl, ?_, ?_⟩
        · rw [List.map_append, p.map_entries, hkeys, List.flatMap_cons]
        · intro e he
          rcases List.mem_append.1 he with he | he
          · exact ⟨p, List.mem_cons_self, fresh, hkept fresh hissued, he⟩
          · obtain ⟨p', hp', hreturned⟩ := hall e he
            exact ⟨p', List.mem_cons_of_mem p hp', hreturned⟩
      · obtain ⟨entries, hentries, -⟩ := returns_of_providedEntries h₁ hmore
        cases hentries
    · obtain ⟨a, ha, -⟩ := hfresh.of_ask
      cases ha

theorem Prepares.mono {issued issued' : List Uuid} {x : ε} {p : PendingEvent}
    (h : Prepares store issued key timestamp b source x p) (hle : ∀ b ∈ issued, b ∈ issued') :
    Prepares store issued' key timestamp b source x p :=
  { h with others := fun k v hv hk => (h.others k v hv hk).mono hle }

/-- An event that can be written is prepared, or the entries of the providers collide. -/
theorem prepares_of_pendingEvent {x : ε} {n : Nat} {payload : Json} {r : Except Error PendingEvent}
    (hpayload : store.codec.writeEvent x = .ok payload) (h : s.Inv)
    (hrun : RunsTo Scene.Goes (store.pendingEvent key n timestamp b source x) s r s') :
    (∃ p, r = .ok p ∧ Prepares store s'.issued key timestamp b source x p ∧
      ¬Clash store.providers ⟨key, store.aggregate.typeOf x, payload,
        reservedMetadata key n (store.aggregate.typeOf x) timestamp b source⟩) ∨
      ∃ k, r = .error (.metadataCollision k) := by
  unfold pendingEvent at hrun
  simp only [hpayload] at hrun
  rcases hrun.of_bind with ⟨entries, s₁, hentries, hrun⟩ | ⟨e, hentries, -⟩
  · obtain ⟨es, hes, hkeys, hreturned⟩ := returns_of_providedEntries h hentries
    obtain rfl := Except.ok.inj hes
    rcases hrun.of_bind with ⟨metadata, s₂, hmerge, hrun⟩ | ⟨e, hmerge, rfl⟩
    · cases hrun
      obtain ⟨hok, rfl⟩ := hmerge.of_ofExcept
      obtain ⟨⟨hnodup, hfree⟩, hreserved, hothers⟩ := Metadata.of_mergeAll_eq_ok hok.symm
      refine .inl ⟨_, rfl, ⟨rfl, hpayload, hreserved, ?_⟩, ?_⟩
      · intro k v hv hk
        rcases hothers k v hv with hold | hmem
        · rw [isReserved_of_reservedMetadata _ _ _ _ _ _ hold] at hk
          cases hk
        · exact hreturned (k, v) hmem
      · rintro (⟨p, hp, k, hk, hclash⟩ | hclash)
        · have hmem : k ∈ entries.map (·.1) := by
            rw [hkeys]
            exact List.mem_flatMap.2 ⟨p, hp, hk⟩
          obtain ⟨e, he, rfl⟩ := List.mem_map.1 hmem
          rw [hfree e he] at hclash
          cases hclash
        · rw [hkeys] at hnodup
          exact hclash hnodup
    · obtain ⟨herror, rfl⟩ := hmerge.of_ofExcept
      obtain ⟨k, rfl⟩ := Metadata.of_mergeAll_eq_error herror.symm
      exact .inr ⟨k, rfl⟩
  · obtain ⟨es, hes, -⟩ := returns_of_providedEntries h hentries
    cases hes

/-- **What it means that a batch was prepared**, and that it cannot be if the entries for any of its
events collide. -/
theorem prepares_of_pendingEvents : ∀ {xs : List ε} {version : Nat} {s : Scene σ ε}
    {r : Except Error (List PendingEvent)}, s.Inv →
    RunsTo Scene.Goes (store.pendingEvents key timestamp b source version xs) s r s' →
    (∀ ps, r = .ok ps →
      List.Forall₂ (Prepares store s'.issued key timestamp b source) xs ps) ∧
      ((∃ c ∈ store.shown key timestamp b source version xs, Clash store.providers c) →
        ∃ k, r = .error (.metadataCollision k))
  | [], version, s, r, _, hrun => by
    cases hrun
    refine ⟨?_, by simp [shown]⟩
    rintro ps ⟨⟩
    exact .nil
  | x :: xs, version, s, r, h, hrun => by
    unfold pendingEvents at hrun
    unfold shown
    split at hrun
    next hfull =>
      cases hrun
      exact ⟨(by rintro ps ⟨⟩), by simp [hfull]⟩
    next hroom =>
      rw [if_neg hroom]
      have hasks : Asks StoreRequest.IsIdle
          (store.pendingEvents key timestamp b source (version + 1) xs) :=
        asks_pendingEvents trivial ..
      cases hpayload : store.codec.writeEvent x with
      | error reason =>
        simp only [pendingEvent, hpayload] at hrun
        cases hrun
        exact ⟨(by rintro ps ⟨⟩), by simp⟩
      | ok payload =>
        rcases hrun.of_bind with ⟨p, s₁, hfirst, hrun⟩ | ⟨e, hfirst, rfl⟩
        · have h₁ := Scene.inv_of_runsTo hfirst h
          obtain ⟨q, hq, hprepared, hno⟩ | ⟨k, hk⟩ := prepares_of_pendingEvent hpayload h hfirst
          swap
          · cases hk
          obtain rfl := Except.ok.inj hq
          -- the first event does not collide, so one of the others does
          have hlater : (∃ c ∈ _ :: store.shown key timestamp b source (version + 1) xs,
              Clash store.providers c) → ∃ c ∈ store.shown key timestamp b source (version + 1) xs,
                Clash store.providers c :=
            fun hclash => ((List.exists_mem_cons_iff _ _ _).1 hclash).resolve_left hno
          rcases hrun.of_bind with ⟨more, s₂, hmore, hrun⟩ | ⟨e, hmore, rfl⟩
          · cases hrun
            obtain ⟨hall, hclash⟩ := prepares_of_pendingEvents h₁ hmore
            refine ⟨?_, ?_⟩
            · rintro ps ⟨⟩
              exact .cons (hprepared.mono (rests_of_asks hasks hmore h₁).issued) (hall more rfl)
            · intro hclashes
              obtain ⟨k, hk⟩ := hclash (hlater hclashes)
              cases hk
          · refine ⟨(by rintro ps ⟨⟩), fun hclashes => ?_⟩
            obtain ⟨k, hk⟩ := (prepares_of_pendingEvents h₁ hmore).2 (hlater hclashes)
            exact ⟨k, congrArg Except.error (Except.error.inj hk)⟩
        · obtain ⟨q, hq, -⟩ | ⟨k, hk⟩ := prepares_of_pendingEvent hpayload h hfirst
          · cases hq
          · exact ⟨(by rintro ps ⟨⟩), fun _ => ⟨k, congrArg Except.error (Except.error.inj hk)⟩⟩

end AggregateStore

/-! ### What the turns let through -/

namespace Turn

/-- The turn is this request with this answer. -/
def Is (n : Turn σ ε) (q : StoreRequest σ ε) (a : q.Answer) : Prop :=
  ∃ before after fired, n = ⟨q, a, before, after, fired⟩

/-- The request asks for a decision. -/
def IsDecision (n : Turn σ ε) : Prop := ∃ root, n.request = .decide root

/-- If the turn is a commit that was accepted, it has put this batch into the stream of the key. -/
def Stores (n : Turn σ ε) (key : StreamKey) (b : Uuid) (ps : List PendingEvent) : Prop :=
  ∀ key' b' ps' es, n.Is (.storage (.commit key' b' ps')) (.ok es) →
    key' = key ∧ b' = b ∧ ∃ l l', EventLog.Extends l key b ps es l'

/-- A turn is one request with one answer. -/
theorem Is.unique {n : Turn σ ε} {q q' : StoreRequest σ ε} {a : q.Answer} {a' : q'.Answer}
    (h : n.Is q a) (h' : n.Is q' a') :
    (⟨q, a⟩ : (q : StoreRequest σ ε) × q.Answer) = ⟨q', a'⟩ := by
  obtain ⟨_, _, _, rfl⟩ := h
  obtain ⟨_, _, _, heq⟩ := h'
  cases heq
  rfl

end Turn

theorem Scene.Goes.exists_turn {s s' : Scene σ ε} {q : StoreRequest σ ε} {a : q.Answer}
    (h : s.Goes q a s') : ∃ n : Turn σ ε, n.Is q a ∧ s'.turns = n :: s.turns := by
  obtain ⟨s₁, hm, l, -, rfl⟩ := h
  exact ⟨_, ⟨_, _, _, rfl⟩, congrArg _ hm.turns⟩

/-- The stored event `e` is the emitted event `x` of this batch, and its metadata tell the truth. -/
structure AggregateStore.Certifies (store : AggregateStore σ ε) (issued : List Uuid)
    (key : StreamKey) (b : Uuid) (time : Instant) (source : Option String) (x : ε)
    (e : CommittedEvent) : Prop where
  key : e.key = key
  batchId : e.batchId = b
  type : e.type = store.aggregate.typeOf x
  payload : store.codec.writeEvent x = .ok e.payload
  attested : e.Attested store.providers issued time source

/-- What the turns of an update that ends with `r` have let through. -/
structure Vouches (store : AggregateStore σ ε) (id : AggregateId) (source : Option String)
    (issued : List Uuid) (t : List (Turn σ ε)) (r : Except Error (List CommittedEvent)) : Prop where
  /-- A decision that emits events is followed by giving out the identifier of their batch and by
  reading the clock.  If what the providers return for any of the events cannot be taken, the update
  ends with the collision, and nothing is committed after the decision. -/
  refused : ∀ later n earlier root decided, t = later ++ n :: earlier →
    n.Is (.decide root) (.ok decided) → decided.uncommitted ≠ [] →
      ∃ rest stamp given time b, later = rest ++ [stamp, given] ∧ stamp.Is .now time ∧
        given.Is .freshId b ∧
        ((∃ c ∈ store.shown (store.keyOf id) time.text b source decided.version decided.uncommitted,
            Clash store.providers c) →
          (∃ k, r = .error (.metadataCollision k)) ∧ ∀ m ∈ rest, ¬m.IsCommit)
  /-- A commit that is accepted follows a decision.  It stores the events that the decision emitted,
  with the identifier and the time that were asked for right after it, and with metadata that tell
  the truth. -/
  certified : ∀ later n earlier key b ps es, t = later ++ n :: earlier →
    n.Is (.storage (.commit key b ps)) (.ok es) →
      ∃ between stamp given decision older time root decided,
        earlier = between ++ stamp :: given :: decision :: older ∧ (∀ m ∈ between, ¬m.IsDecision) ∧
        stamp.Is .now time ∧ given.Is .freshId b ∧ decision.Is (.decide root) (.ok decided) ∧
        List.Forall₂ (store.Certifies issued (store.keyOf id) b time source) decided.uncommitted es

namespace Vouches

variable {store : AggregateStore σ ε} {id : AggregateId} {source : Option String}
  {issued : List Uuid} {t t' : List (Turn σ ε)} {r : Except Error (List CommittedEvent)}

/-- A turn of two parts is one of the later part or one of the earlier part. -/
theorem split_of_append_eq {later earlier : List (Turn σ ε)} {n : Turn σ ε}
    (h : t ++ t' = later ++ n :: earlier) :
    (∃ rest, t = later ++ n :: rest ∧ earlier = rest ++ t') ∨
      ∃ rest, later = t ++ rest ∧ t' = rest ++ n :: earlier := by
  rcases List.append_eq_append_iff.1 h with ⟨rest, hlater, ht'⟩ | ⟨rest, ht, hrest⟩
  · exact .inr ⟨rest, hlater, ht'⟩
  · cases rest with
    | nil => exact .inr ⟨[], by simpa using ht.symm, hrest.symm⟩
    | cons m rest =>
      obtain ⟨rfl, rfl⟩ := List.cons.inj hrest
      exact .inl ⟨rest, ht, rfl⟩

theorem eq_of_singleton_eq {later earlier : List (Turn σ ε)} {n m : Turn σ ε}
    (h : [n] = later ++ m :: earlier) : later = [] ∧ n = m := by
  cases later with
  | nil => exact ⟨rfl, (List.cons.inj h).1⟩
  | cons k later => simp at h

theorem mono {issued' : List Uuid} (h : Vouches store id source issued t r)
    (hle : ∀ b ∈ issued, b ∈ issued') : Vouches store id source issued' t r where
  refused := h.refused
  certified := by
    intro later n earlier key b ps es hsplit hn
    obtain ⟨between, stamp, given, decision, older, time, root, decided, hearlier, hno, hstamp,
      hgiven, hdecision, hall⟩ := h.certified later n earlier key b ps es hsplit hn
    exact ⟨between, stamp, given, decision, older, time, root, decided, hearlier, hno, hstamp,
      hgiven, hdecision, hall.imp fun x e hx => { hx with attested := hx.attested.mono hle }⟩

/-- Turns without commits and decisions let nothing through. -/
theorem of_quiet (h : ∀ n ∈ t, n.request.IsQuiet) : Vouches store id source issued t r := by
  constructor
  case refused =>
    rintro later n earlier root decided rfl ⟨_, _, _, rfl⟩ -
    exact False.elim (h _ (List.mem_append_right later List.mem_cons_self))
  case certified =>
    rintro later n earlier key b ps es rfl ⟨_, _, _, rfl⟩
    exact False.elim (h _ (List.mem_append_right later List.mem_cons_self))

/-- A decision that emits nothing, or fails, lets nothing through. -/
theorem of_decision {n : Turn σ ε} {root : Root σ ε} {a : Except Error (Root σ ε)}
    (hn : n.Is (.decide root) a) (hempty : ∀ decided, a = .ok decided → decided.uncommitted = []) :
    Vouches store id source issued [n] r := by
  constructor
  case refused =>
    intro later m earlier root' decided hsplit hm hne
    obtain ⟨rfl, rfl⟩ := eq_of_singleton_eq hsplit
    cases hm.unique hn
    exact absurd (hempty decided rfl) hne
  case certified =>
    intro later m earlier key b ps es hsplit hm
    obtain ⟨rfl, rfl⟩ := eq_of_singleton_eq hsplit
    cases hm.unique hn

/-- An attempt may follow one that has failed for another reason than a collision. -/
theorem append {e : Error} (h : Vouches store id source issued t r)
    (h' : Vouches store id source issued t' (.error e)) (he : ∀ k, e ≠ .metadataCollision k) :
    Vouches store id source issued (t ++ t') r := by
  constructor
  case refused =>
    intro later n earlier root decided hsplit hn hne
    rcases split_of_append_eq hsplit with ⟨rest, ht, -⟩ | ⟨rest, rfl, ht'⟩
    · exact h.refused later n rest root decided ht hn hne
    · obtain ⟨rest', stamp, given, time, b, rfl, hstamp, hgiven, hclash⟩ :=
        h'.refused rest n earlier root decided ht' hn hne
      refine ⟨t ++ rest', stamp, given, time, b, by simp, hstamp, hgiven, ?_⟩
      intro hclashes
      obtain ⟨⟨k, hk⟩, -⟩ := hclash hclashes
      exact absurd (Except.error.inj hk) (he k)
  case certified =>
    intro later n earlier key b ps es hsplit hn
    rcases split_of_append_eq hsplit with ⟨rest, ht, rfl⟩ | ⟨rest, -, ht'⟩
    · obtain ⟨between, stamp, given, decision, older, time, root, decided, rfl, hall⟩ :=
        h.certified later n rest key b ps es ht hn
      exact ⟨between, stamp, given, decision, older ++ t', time, root, decided, by simp, hall⟩
    · exact h'.certified rest n earlier key b ps es ht' hn

end Vouches

namespace AggregateStore

open Scene StoreRequest

variable {store : AggregateStore σ ε} {id : AggregateId} {source : Option String}
  {issued : List Uuid} {r : Except Error (List CommittedEvent)} {s s₁ s' : Scene σ ε}
  {key : StreamKey} {b : Uuid}

/-! ### The turns of an attempt -/

/-- Quiet requests leave quiet turns. -/
theorem exists_turns_of_quiet {α : Type} {c : StoreCall σ ε α} {r : Except Error α}
    (hc : Asks IsQuiet c) (h : s.Inv) (hrun : RunsTo Goes c s r s') :
    ∃ new, s'.turns = new ++ s.turns ∧ ∀ n ∈ new, n.request.IsQuiet := by
  obtain ⟨⟨new, hnew, hall⟩, -, -⟩ :=
    rests_of_runsTo hc (fun _ hq => hq.leavesEvents) hrun h
  exact ⟨new, hnew, fun n hn => (hall n hn).1⟩

theorem not_isDecision_of_quiet {n : Turn σ ε} (h : n.request.IsQuiet) : ¬n.IsDecision := by
  rintro ⟨root, hn⟩
  rw [hn] at h
  exact h

theorem not_isCommit_of_quiet {n : Turn σ ε} (h : n.request.IsQuiet) : ¬n.IsCommit := by
  rintro ⟨key, b, ps, hn⟩
  rw [hn] at h
  exact h

theorem stores_of_not_isCommit {n : Turn σ ε} {ps : List PendingEvent} (h : ¬n.IsCommit) :
    n.Stores key b ps := by
  rintro key' b' ps' es ⟨_, _, _, rfl⟩
  exact absurd ⟨key', b', ps', rfl⟩ h

/-- The turns of a commit after a check, and of quiet requests after it. -/
theorem exists_turns_of_commit {ps : List PendingEvent}
    {rest : List CommittedEvent → StoreCall σ ε (List CommittedEvent)} (h : s.Inv)
    (hb : b ∈ s.issued) (hunused : s.log.Unused b) (hrest : ∀ es, Asks IsQuiet (rest es))
    (hrun : RunsTo Goes (StoreCall.checkLive.bind fun _ =>
      (StoreCall.storage (.commit key b ps)).bind rest) s r s') :
    ∃ new, s'.turns = new ++ s.turns ∧ ∀ n ∈ new, ¬n.IsDecision ∧ n.Stores key b ps := by
  have hquiet : ∀ {n : Turn σ ε}, n.request.IsQuiet → ¬n.IsDecision ∧ n.Stores key b ps :=
    fun hn => ⟨not_isDecision_of_quiet hn, stores_of_not_isCommit (not_isCommit_of_quiet hn)⟩
  have hlive : Asks IsQuiet (StoreCall.checkLive : StoreCall σ ε Unit) :=
    asks_checkLive.imp fun _ hq => hq.isReading.isQuiet
  rcases hrun.of_bind with ⟨u, s₁, hcheck, hrun⟩ | ⟨e, hcheck, -⟩
  swap
  · obtain ⟨new, hnew, hall⟩ := exists_turns_of_quiet hlive h hcheck
    exact ⟨new, hnew, fun n hn => hquiet (hall n hn)⟩
  obtain ⟨checks, hchecks, hchecked⟩ := exists_turns_of_quiet hlive h hcheck
  have h₁ := inv_of_runsTo hcheck h
  have hrests := rests_of_runsTo hlive (fun _ hq => hq.leavesEvents) hcheck h
  -- the turn of the commit
  obtain ⟨a, s₂, hgoes, hlater⟩ : ∃ a s₂, s₁.Goes (.storage (.commit key b ps)) a s₂ ∧
      ∃ later, s'.turns = later ++ s₂.turns ∧ ∀ n ∈ later, n.request.IsQuiet := by
    rcases hrun.of_bind with ⟨es, s₂, hcommit, hrun⟩ | ⟨e, hcommit, -⟩
    · have hgoes := StoreCall.serves_of_storage hcommit
      exact ⟨_, s₂, hgoes, exists_turns_of_quiet (hrest es) (h₁.goes hgoes) hrun⟩
    · exact ⟨_, s', StoreCall.serves_of_storage hcommit, [], rfl, by simp⟩
  obtain ⟨later, hnew, hlater⟩ := hlater
  obtain ⟨l, l', f, hturn, hcases⟩ :=
    exists_turn_of_commit h₁ (hrests.issued b hb) (hrests.unused b hb hunused) hgoes
  refine ⟨later ++ ⟨.storage (.commit key b ps), a, l, l', f⟩ :: checks, ?_, ?_⟩
  · rw [hnew, hturn, hchecks, List.append_assoc]
    rfl
  · intro n hn
    rcases List.mem_append.1 hn with hn | hn
    · exact hquiet (hlater n hn)
    rcases List.mem_cons.1 hn with rfl | hn
    · refine ⟨?_, ?_⟩
      · rintro ⟨root, hq⟩
        cases hq
      · rintro key' b' ps' es ⟨_, _, _, hsame⟩
        cases hsame
        rcases hcases with ⟨e, he, -⟩ | ⟨es', hes, -, hext⟩
        · cases he
        · obtain rfl := Except.ok.inj hes
          exact ⟨rfl, rfl, l, l', hext⟩
    · exact hquiet (hchecked n hn)

/-- Events that are stored as they were prepared are certified. -/
theorem certifies_of_prepares {time : Instant} {xs : List ε} {ps : List PendingEvent}
    {es : List CommittedEvent}
    (h : List.Forall₂ (Prepares store issued key time.text b source) xs ps)
    (h' : List.Forall₂ (fun p e => e = p.commit key b e.globalSequence) ps es) :
    List.Forall₂ (store.Certifies issued key b time source) xs es := by
  induction h generalizing es with
  | nil =>
    cases h'
    exact .nil
  | cons hp _ ih =>
    cases h' with
    | cons he hrest =>
      refine .cons ⟨?_, ?_, ?_, ?_, hp.attested he⟩ (ih hrest)
      · rw [he]
        rfl
      · rw [he]
        rfl
      · rw [he]
        exact hp.type
      · rw [he]
        exact hp.payload

/-- Committing a root begins with giving out the identifier of the batch, which is nobody else's, and
with reading the clock. -/
theorem exists_begun_of_commitRoot {stream : LoadedStream ε} {root : Root σ ε} (h : s.Inv)
    (hrun : RunsTo Goes (store.commitRoot id source stream root) s r s') :
    ∃ stamp given time b s₁, s₁.turns = stamp :: given :: s.turns ∧ stamp.Is .now time ∧
      given.Is .freshId b ∧ s₁.Inv ∧ b ∈ s₁.issued ∧ s₁.log.Unused b ∧
      RunsTo Goes ((store.pendingEvents (store.keyOf id) time.text b source root.version
        root.uncommitted).bind fun ps => StoreCall.checkLive.bind fun _ =>
          (StoreCall.storage (.commit (store.keyOf id) b ps)).bind fun es =>
            (store.invalidate id).bind fun _ => (store.offerSnapshot root
              ((es.getLast?.map (·.sequence)).getD root.version) stream.snapshotVersion).bind
                fun _ => .done es) s₁ r s' := by
  rcases hrun.of_bind with ⟨b, s₁, hfresh, hrun⟩ | ⟨e, hfresh, -⟩
  swap
  · obtain ⟨a, ha, -⟩ := hfresh.of_ask
    cases ha
  rcases hrun.of_bind with ⟨time, s₂, hnow, hrun⟩ | ⟨e, hnow, -⟩
  swap
  · obtain ⟨a, ha, -⟩ := hnow.of_ask
    cases ha
  obtain ⟨_, ha, hgives⟩ := hfresh.of_ask
  obtain rfl := Except.ok.inj ha
  obtain ⟨_, ha, hreads⟩ := hnow.of_ask
  obtain rfl := Except.ok.inj ha
  obtain ⟨given, hgiven, hturn₁⟩ := hgives.exists_turn
  obtain ⟨stamp, hstamp, hturn₂⟩ := hreads.exists_turn
  have h₁ := h.goes hgives
  have hquiet : Asks IsQuiet (StoreCall.now : StoreCall σ ε Instant) :=
    ⟨trivial, fun _ => trivial⟩
  have hrests := rests_of_runsTo hquiet (fun _ hq => hq.leavesEvents) hnow h₁
  have hissued : b ∈ s₂.issued ∧ s₂.log.Unused b := by
    obtain ⟨s₀, -, l, ⟨hunused, rfl⟩, rfl⟩ := hgives
    exact ⟨hrests.issued b List.mem_cons_self, hrests.unused b List.mem_cons_self hunused⟩
  exact ⟨stamp, given, time, b, s₂, by rw [hturn₂, hturn₁], hstamp, hgiven, h₁.goes hreads,
    hissued.1, hissued.2, hrun⟩

/-- The turns of committing a root: giving out the identifier, reading the clock, and the rest. -/
theorem exists_turns_of_commitRoot {stream : LoadedStream ε} {root : Root σ ε} (h : s.Inv)
    (hrun : RunsTo Goes (store.commitRoot id source stream root) s r s') :
    ∃ rest stamp given time b, s'.turns = rest ++ stamp :: given :: s.turns ∧ stamp.Is .now time ∧
      given.Is .freshId b ∧ (∀ n ∈ rest, ¬n.IsDecision) ∧
      ((∃ c ∈ store.shown (store.keyOf id) time.text b source root.version root.uncommitted,
          Clash store.providers c) →
        (∃ k, r = .error (.metadataCollision k)) ∧ ∀ n ∈ rest, ¬n.IsCommit) ∧
      ∀ n ∈ rest, ∀ key b' ps es, n.Is (.storage (.commit key b' ps)) (.ok es) → b' = b ∧
        List.Forall₂ (store.Certifies s'.issued (store.keyOf id) b time source)
          root.uncommitted es := by
  obtain ⟨stamp, given, time, b, s₁, hold, hstamp, hgiven, h₁, hissued, hunused, hrun⟩ :=
    exists_begun_of_commitRoot h hrun
  have hquiet : Asks IsQuiet (store.pendingEvents (store.keyOf id) time.text b source
      root.version root.uncommitted) := asks_pendingEvents trivial ..
  rcases hrun.of_bind with ⟨ps, s₂, hps, hrun⟩ | ⟨e, hps, rfl⟩
  · obtain ⟨hprepared, hclash⟩ := prepares_of_pendingEvents h₁ hps
    obtain ⟨new, hnew, hall⟩ := exists_turns_of_quiet hquiet h₁ hps
    have hrests := rests_of_runsTo hquiet (fun _ hq => hq.leavesEvents) hps h₁
    obtain ⟨later, hlater, hturns⟩ := exists_turns_of_commit (inv_of_runsTo hps h₁)
      (hrests.issued b hissued) (hrests.unused b hissued hunused) (fun es =>
        asks_afterCommit trivial trivial trivial fun _ _ _ => trivial) hrun
    refine ⟨later ++ new, stamp, given, time, b, ?_, hstamp, hgiven, ?_, ?_, ?_⟩
    · rw [hlater, hnew, hold, List.append_assoc]
    · intro n hn
      rcases List.mem_append.1 hn with hn | hn
      · exact (hturns n hn).1
      · exact not_isDecision_of_quiet (hall n hn)
    · intro hclashes
      obtain ⟨k, hk⟩ := hclash hclashes
      cases hk
    · intro n hn key b' ps' es hcommit
      rcases List.mem_append.1 hn with hn | hn
      · obtain ⟨-, rfl, l, l', hext⟩ := (hturns n hn).2 key b' ps' es hcommit
        have hkept := issued_of_runsTo hrun
        exact ⟨rfl, certifies_of_prepares ((hprepared ps rfl).imp fun _ _ hp => hp.mono hkept)
          hext.brought⟩
      · obtain ⟨_, _, _, rfl⟩ := hcommit
        exact False.elim (hall _ hn)
  · obtain ⟨new, hnew, hall⟩ := exists_turns_of_quiet hquiet h₁ hps
    refine ⟨new, stamp, given, time, b, by rw [hnew, hold], hstamp, hgiven,
      fun n hn => not_isDecision_of_quiet (hall n hn), ?_, ?_⟩
    · intro hclashes
      obtain ⟨k, hk⟩ := (prepares_of_pendingEvents h₁ hps).2 hclashes
      exact ⟨⟨k, congrArg Except.error (Except.error.inj hk)⟩,
        fun n hn => not_isCommit_of_quiet (hall n hn)⟩
    · rintro n hn key b' ps' es ⟨_, _, _, rfl⟩
      exact False.elim (hall _ hn)

/-! ### The turns of an update -/

/-- A decision that emits events, and the turns of committing them. -/
theorem vouches_of_batch {rest : List (Turn σ ε)} {stamp given decision : Turn σ ε}
    {root decided : Root σ ε} {time : Instant} (hdecision : decision.Is (.decide root) (.ok decided))
    (hstamp : stamp.Is .now time) (hgiven : given.Is .freshId b) (hno : ∀ n ∈ rest, ¬n.IsDecision)
    (hclash : (∃ c ∈ store.shown (store.keyOf id) time.text b source decided.version
        decided.uncommitted, Clash store.providers c) →
      (∃ k, r = .error (.metadataCollision k)) ∧ ∀ n ∈ rest, ¬n.IsCommit)
    (hcertified : ∀ n ∈ rest, ∀ key b' ps es, n.Is (.storage (.commit key b' ps)) (.ok es) →
      b' = b ∧ List.Forall₂ (store.Certifies issued (store.keyOf id) b time source)
        decided.uncommitted es) :
    Vouches store id source issued ((rest ++ [stamp, given]) ++ [decision]) r := by
  have hquiet : ∀ n ∈ [stamp, given], n.request.IsQuiet := by
    obtain ⟨_, _, _, rfl⟩ := hstamp
    obtain ⟨_, _, _, rfl⟩ := hgiven
    simp [IsQuiet]
  constructor
  case refused =>
    intro later n earlier root' decided' hsplit hn hne
    rcases Vouches.split_of_append_eq hsplit with ⟨rest', hlater, -⟩ | ⟨rest', rfl, hbegun⟩
    · have hmem : n ∈ rest ++ [stamp, given] := by
        rw [hlater]
        exact List.mem_append_right later List.mem_cons_self
      refine absurd ?_ ((List.mem_append.1 hmem).elim (hno n)
        fun hn => not_isDecision_of_quiet (hquiet n hn))
      obtain ⟨_, _, _, rfl⟩ := hn
      exact ⟨root', rfl⟩
    · obtain ⟨rfl, rfl⟩ := Vouches.eq_of_singleton_eq hbegun
      cases hn.unique hdecision
      exact ⟨rest, stamp, given, time, b, by simp, hstamp, hgiven, hclash⟩
  case certified =>
    intro later n earlier key b' ps es hsplit hn
    rcases Vouches.split_of_append_eq hsplit with ⟨rest', hlater, rfl⟩ | ⟨rest', rfl, hbegun⟩
    · rcases Vouches.split_of_append_eq hlater with ⟨between, rfl, rfl⟩ | ⟨rest', -, hbegun⟩
      · obtain ⟨rfl, hall⟩ :=
          hcertified n (List.mem_append_right later List.mem_cons_self) key b' ps es hn
        exact ⟨between, stamp, given, decision, [], time, root, decided, by simp,
          fun m hm => hno m (by simp [hm]), hstamp, hgiven, hdecision, hall⟩
      · have hmem : n ∈ [stamp, given] := by
          rw [hbegun]
          exact List.mem_append_right rest' List.mem_cons_self
        obtain ⟨_, _, _, rfl⟩ := hn
        exact False.elim (hquiet _ hmem)
    · obtain ⟨rfl, rfl⟩ := Vouches.eq_of_singleton_eq hbegun
      cases hn.unique hdecision

/-- From `s` to `s'` the call has made the turns of an update that ends with `r`. -/
def Vouched (store : AggregateStore σ ε) (id : AggregateId) (source : Option String)
    (s s' : Scene σ ε) (r : Except Error (List CommittedEvent)) : Prop :=
  ∃ new, s'.turns = new ++ s.turns ∧ Vouches store id source s'.issued new r

/-- After a part that makes quiet requests only the update goes on, if it does not end with a failure
of that part. -/
theorem vouched_of_bind {α : Type} {c : StoreCall σ ε α}
    {f : α → StoreCall σ ε (List CommittedEvent)} (hc : Asks IsQuiet c) (h : s.Inv)
    (hrun : RunsTo Goes (c.bind f) s r s')
    (hrest : ∀ a s₁, RunsTo Goes c s (.ok a) s₁ → s₁.Inv → RunsTo Goes (f a) s₁ r s' →
      Vouched store id source s₁ s' r) : Vouched store id source s s' r := by
  rcases hrun.of_bind with ⟨a, s₁, hfirst, hnext⟩ | ⟨e, hfirst, -⟩
  · obtain ⟨new, hnew, hvouches⟩ := hrest a s₁ hfirst (inv_of_runsTo hfirst h) hnext
    obtain ⟨old, hold, hall⟩ := exists_turns_of_quiet hc h hfirst
    refine ⟨new ++ old, by rw [hnew, hold, List.append_assoc], ?_⟩
    exact hvouches.append (e := .cancelled) (.of_quiet hall) (by rintro k ⟨⟩)
  · obtain ⟨new, hnew, hall⟩ := exists_turns_of_quiet hc h hfirst
    exact ⟨new, hnew, .of_quiet hall⟩

/-- **An attempt lets no other metadata through.** -/
theorem vouched_of_attempt (h : s.Inv) (hrun : RunsTo Goes (store.attempt id source) s r s') :
    Vouched store id source s s' r := by
  refine vouched_of_bind ((asks_loadRoot id).imp fun _ hq => hq.isQuiet) h hrun ?_
  rintro ⟨root, stream⟩ s₁ _ h₁ hrun
  refine vouched_of_bind ((asks_redelivered ..).imp fun _ hq => hq.isReading.isQuiet) h₁ hrun ?_
  intro found s₂ hfound h₂ hrun
  cases found with
  | some batch =>
    cases hrun
    exact ⟨[], rfl, .of_quiet (List.forall_mem_nil _)⟩
  | none =>
    rcases hrun.of_bind with ⟨decision, s₃, hdecide, hrun⟩ | ⟨e, hdecide, -⟩
    swap
    · obtain ⟨a, ha, -⟩ := hdecide.of_ask
      cases ha
    obtain ⟨_, ha, hgoes⟩ := hdecide.of_ask
    obtain rfl := Except.ok.inj ha
    have h₃ := h₂.goes hgoes
    obtain ⟨n, hn, hturn⟩ := hgoes.exists_turn
    cases decision with
    | error e =>
      cases hrun
      exact ⟨[n], hturn, .of_decision hn (by rintro decided ⟨⟩)⟩
    | ok decided =>
      change RunsTo Goes (if decided.uncommitted.isEmpty then pure []
        else store.commitRoot id source stream decided) s₃ r s' at hrun
      split at hrun
      next hempty =>
        cases hrun
        refine ⟨[n], hturn, .of_decision hn ?_⟩
        rintro decided' ⟨⟩
        exact List.isEmpty_iff.1 hempty
      next hne =>
        obtain ⟨rest, stamp, given, time, b, hturns, hstamp, hgiven, hno, hclash, hcertified⟩ :=
          exists_turns_of_commitRoot h₃ hrun
        refine ⟨rest ++ [stamp, given] ++ [n], ?_,
          vouches_of_batch hn hstamp hgiven hno hclash hcertified⟩
        rw [hturns, hturn]
        simp

/-- An attempt that has failed may be followed by others if it was in conflict: it has not failed
because of a collision. -/
theorem vouched_of_retry {c : Error → StoreCall σ ε (List CommittedEvent)} (h : s.Inv)
    (hrun : RunsTo Goes ((store.attempt id source).outcome.bind fun
      | .ok committed => .done committed
      | .error e => if e.isConflict then c e else Call.fail e) s r s')
    (hnext : ∀ e s₁, s₁.Inv → RunsTo Goes (c e) s₁ r s' → Vouched store id source s₁ s' r) :
    Vouched store id source s s' r := by
  obtain ⟨r₁, s₁, hattempt, hrest⟩ := hrun.of_outcome_bind
  have hvouched := vouched_of_attempt h hattempt
  cases r₁ with
  | ok es =>
    cases hrest
    exact hvouched
  | error e =>
    dsimp only at hrest
    split at hrest
    next hconflict =>
      obtain ⟨old, hold, hvouches⟩ := hvouched
      obtain ⟨new, hnew, hvouches'⟩ := hnext e s₁ (inv_of_runsTo hattempt h) hrest
      refine ⟨new ++ old, by rw [hnew, hold, List.append_assoc], ?_⟩
      refine hvouches'.append (hvouches.mono (issued_of_runsTo hrest)) ?_
      rintro k rfl
      cases hconflict
    next =>
      cases hrest
      exact hvouched

/-- The attempts of an update let no other metadata through. -/
theorem vouched_of_attempts {retries done : Nat} (h : s.Inv)
    (hrun : RunsTo Goes (store.attempts id source retries done) s r s') :
    Vouched store id source s s' r := by
  induction retries generalizing done s with
  | zero =>
    refine vouched_of_retry h hrun fun e s₁ h₁ hrest => ?_
    refine vouched_of_bind (asks_invalidate trivial) h₁ hrest ?_
    intro u s₂ _ _ hfail
    cases hfail
    exact ⟨[], rfl, .of_quiet (List.forall_mem_nil _)⟩
  | succ retries ih =>
    refine vouched_of_retry h hrun fun e s₁ h₁ hrest => ?_
    refine vouched_of_bind (asks_invalidate trivial) h₁ hrest ?_
    intro u s₂ _ h₂ hrest
    refine vouched_of_bind (asks_pause trivial) h₂ hrest ?_
    intro u' s₃ _ h₃ hrest
    exact ih h₃ hrest

/-- **The metadata of committed events cannot be forged.** -/
theorem vouches_of_update {m : MemoryStorage} {fired : Bool} (hm : m.Reachable)
    (hrun : RunsTo Goes (store.update id source) (.start m fired) r s') :
    Vouches store id source s'.issued s'.turns r := by
  obtain ⟨new, hnew, hvouches⟩ := vouched_of_attempts (inv_start hm fired) hrun
  obtain rfl : s'.turns = new := by
    rw [hnew]
    exact List.append_nil new
  exact hvouches

/-- A store of orders whose providers add an identifier and the name of the host. -/
def hosted : OrderStore := { OrderStore.plain with providers := [.eventId, .fixed [("host", "h")]] }

/-- The first update of an order stores its source and what the providers return. -/
theorem vouches_of_first_update : ∃ es s',
    RunsTo Goes (hosted.update MemoryStorage.sampleKey.id (some "c")) (.start {} false) (.ok es) s' ∧
      es.map (fun e => (e.metadata.sourceId, e.metadata.get? "host")) = [(some "c", some "h")] ∧
      Vouches hosted MemoryStorage.sampleKey.id (some "c") s'.issued s'.turns (.ok es) := by
  have hrun : ∃ es s', RunsTo Goes (hosted.update MemoryStorage.sampleKey.id (some "c"))
      (.start {} false) (.ok es) s' ∧
        es.map (fun e => (e.metadata.sourceId, e.metadata.get? "host")) =
          [(some "c", some "h")] := by
    refine ⟨?es, ?last, ?run, ?metadata⟩
    case run =>
      -- the check, the reading, the decision, the identifier and the time of the batch
      refine .waiting (a := false) ⟨_, .refl _, _, ⟨rfl, rfl⟩, rfl⟩ ?_
      refine .waiting ⟨_, .refl _, _, ⟨_, rfl⟩, rfl⟩ ?_
      refine .waiting
        (a := OrderRoot.add ⟨MemoryStorage.sampleKey.id, Order.aggregate.initial, 0, []⟩ "apple" 2)
        ⟨_, .refl _, _, rfl, rfl⟩ ?_
      refine .waiting (a := Uuid.ofNat 1) ⟨_, .refl _, _, ⟨?_, rfl⟩, rfl⟩ ?_
      · intro e he
        cases he
      refine .waiting (a := (⟨0, 0⟩ : Instant)) ⟨_, .refl _, _, rfl, rfl⟩ ?_
      -- an identifier for each provider, the check and the commit
      refine .waiting (a := Uuid.ofNat 2) ⟨_, .refl _, _, ⟨?_, rfl⟩, rfl⟩ ?_
      · intro e he
        cases he
      refine .waiting (a := Uuid.ofNat 3) ⟨_, .refl _, _, ⟨?_, rfl⟩, rfl⟩ ?_
      · intro e he
        cases he
      refine .waiting (a := false) ⟨_, .refl _, _, ⟨rfl, rfl⟩, rfl⟩ ?_
      refine .waiting ⟨_, .refl _, _, ⟨_, rfl⟩, rfl⟩ ?_
      exact .done _ _
    case metadata => rfl
  obtain ⟨es, s', hrun, hmetadata⟩ := hrun
  exact ⟨es, s', hrun, hmetadata, vouches_of_update ⟨[], rfl⟩ hrun⟩

end AggregateStore

end EventLedger
