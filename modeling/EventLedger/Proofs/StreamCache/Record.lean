import EventLedger.Proofs.StreamCache
import EventLedger.Proofs.Time.Deadlines
import Mathlib.Data.List.Induction

/-!
# The record of a cache

A cache is used by one request after another, and the record lists the requests with their answers.
What the cache answers can be told from the record alone: whether a stream may be kept depends on
the invalidations and clearings since its generation was taken, and what is found depends on the
last stream that was kept and on what happened after it.  Neither slots nor stamps are needed to say
it, and the clock may go as it likes.

## Main definitions

* `CacheRequest`, `CacheUse` — the requests to a cache, and a request with its answer.
* `StreamCache.record`, `StreamCache.reached` — the record of a cache that was empty at first, and
  the cache at its end.
* `CacheUse.Drops`, `CacheUse.Ends` — the uses after which an earlier reading is out of date, and
  those after which a kept stream is no longer there.
* `StreamCache.Keeps` — a stream was kept, and nothing has ended it since.
* `StreamCache.Truthful` — the answers are those that the record before them calls for.

## Main results

* `StreamCache.record_concat`, `StreamCache.request_record` — the record has one entry for each
  request, with the answer of the cache that the requests before it have left.
* `StreamCache.Tracks.answer` — one more request keeps the cache and its record in step.
* `StreamCache.truthful_record` — **every record is truthful**, whatever is asked and whatever the
  clock shows.
-/

namespace EventLedger

variable {σ : Type}

/-- A request to a cache. -/
inductive CacheRequest (σ : Type)
  /-- The generation of a key. -/
  | generation (key : StreamKey)
  /-- Keep a stream that was read under a generation. -/
  | insert (key : StreamKey) (generation : Nat) (stream : σ) (now : Instant)
  /-- The stream of a key. -/
  | get (key : StreamKey) (now : Instant)
  /-- Drop the stream of a key. -/
  | invalidate (key : StreamKey)
  /-- Drop every stream. -/
  | clear
  /-- The number of streams. -/
  | size

/-- The answer to a request. -/
def CacheRequest.Answer : CacheRequest σ → Type
  | .generation _ => Nat
  | .insert .. => Bool
  | .get .. => Option σ
  | .invalidate _ => Unit
  | .clear => Unit
  | .size => Nat

/-- A request with its answer. -/
structure CacheUse (σ : Type) where
  /-- The request. -/
  request : CacheRequest σ
  /-- The answer. -/
  answer : request.Answer

namespace CacheUse

/-- What was read of the key before is out of date. -/
def Drops (key : StreamKey) : CacheUse σ → Prop
  | ⟨.invalidate key', _⟩ => key' = key
  | ⟨.clear, _⟩ => True
  | _ => False

/-- A stream that was kept for the key until `expiry` is no longer there: it was dropped or
replaced, or it was asked for when it had expired. -/
def Ends (key : StreamKey) (expiry : Instant) : CacheUse σ → Prop
  | ⟨.invalidate key', _⟩ => key' = key
  | ⟨.clear, _⟩ => True
  | ⟨.insert key' _ _ _, kept⟩ => key' = key ∧ kept = true
  | ⟨.get key' now, _⟩ => key' = key ∧ now.isBefore expiry = false
  | _ => False

end CacheUse

namespace StreamCache

/-- The answer to a request, and the cache after it. -/
def answer (c : StreamCache σ) : (q : CacheRequest σ) → q.Answer × StreamCache σ
  | .generation key => (c.generation key, c)
  | .insert key g stream now => c.insert key g stream now
  | .get key now => c.get key now
  | .invalidate key => ((), c.invalidate key)
  | .clear => ((), c.clear)
  | .size => (c.size, c)

/-- A record and a cache after one more request; the newest use comes first. -/
def use (r : List (CacheUse σ) × StreamCache σ) (q : CacheRequest σ) :
    List (CacheUse σ) × StreamCache σ :=
  (⟨q, (r.2.answer q).1⟩ :: r.1, (r.2.answer q).2)

/-- The record of a cache that is empty at first, the newest use first. -/
def record (ttl : Duration) (qs : List (CacheRequest σ)) : List (CacheUse σ) :=
  (qs.foldl use ([], empty ttl)).1

/-- The cache after some requests, if it is empty at first. -/
def reached (ttl : Duration) (qs : List (CacheRequest σ)) : StreamCache σ :=
  (qs.foldl use ([], empty ttl)).2

/-- In the record, the last stream that was kept for the key is `s`, to be given out before
`expiry`, and nothing has ended that since. -/
def Keeps (ttl : Duration) (us : List (CacheUse σ)) (key : StreamKey) (s : σ) (expiry : Instant) :
    Prop :=
  ∃ g t newer older, us = newer ++ ⟨.insert key g s t, true⟩ :: older ∧ expiry = t.after ttl ∧
    ∀ u ∈ newer, ¬u.Ends key expiry

/-- The answers of a cache are those that the record before them calls for. -/
structure Truthful (ttl : Duration) (us : List (CacheUse σ)) : Prop where
  /-- A stream that was read under a generation is kept if its key was neither invalidated nor
  cleared since the generation was taken. -/
  kept : ∀ {newer between older key g s now} {a : Bool},
    us = newer ++ ⟨.insert key g s now, a⟩ :: (between ++ ⟨.generation key, g⟩ :: older) →
      (a = true ↔ ∀ u ∈ between, ¬u.Drops key)
  /-- A stream is found if it is kept and has not expired. -/
  found : ∀ {newer older key now} {a : Option σ}, us = newer ++ ⟨.get key now, a⟩ :: older →
    ∀ s, a = some s ↔ ∃ expiry, Keeps ttl older key s expiry ∧ now.isBefore expiry = true
  /-- The size counts the keys for which a stream is kept. -/
  counted : ∀ {newer older} {n : Nat}, us = newer ++ ⟨.size, n⟩ :: older →
    ∃ keys : List StreamKey, keys.Nodup ∧
      (∀ key, key ∈ keys ↔ ∃ s expiry, Keeps ttl older key s expiry) ∧ n = keys.length
  /-- A stream expires its time after it was kept, or with the calendar; leap seconds aside. -/
  expires : ∀ t now : Instant, t.isLeap = false → now.isLeap = false →
    (now.isBefore (t.after ttl) = true ↔ now.total < min (t.total + ttl.nanos) Instant.last.total)

variable {c : StreamCache σ} {q : CacheRequest σ} {key : StreamKey} {ttl : Duration}

/-! ### One request -/

/-- A use that is the answered request has that request and its answer. -/
theorem answer_of_eq {q' : CacheRequest σ} {a : q'.Answer}
    (h : (⟨q', a⟩ : CacheUse σ) = ⟨q, (c.answer q).1⟩) : q = q' ∧ a = (c.answer q').1 := by
  cases h
  exact ⟨rfl, rfl⟩

theorem stamped_answer (h : c.Stamped) (q : CacheRequest σ) : (c.answer q).2.Stamped := by
  cases q with
  | generation key => exact h
  | insert key g s now => exact h.insert
  | get key now => exact h.get
  | invalidate key => exact h.invalidate
  | clear => exact Stamped.clear
  | size => exact h

theorem ttl_answer (c : StreamCache σ) (q : CacheRequest σ) : (c.answer q).2.ttl = c.ttl := by
  cases q with
  | insert key g s now =>
    simp only [answer, insert]
    split <;> rfl
  | get key now =>
    simp only [answer, get]
    split
    · split <;> rfl
    · rfl
  | _ => rfl

/-- A generation grows if the key is dropped, and only then. -/
theorem generation_answer (h : c.Stamped) (q : CacheRequest σ) (key : StreamKey) :
    (CacheUse.Drops key ⟨q, (c.answer q).1⟩ ∧ c.generation key < (c.answer q).2.generation key) ∨
      (¬CacheUse.Drops key ⟨q, (c.answer q).1⟩ ∧
        (c.answer q).2.generation key = c.generation key) := by
  have hle := h key
  cases q with
  | generation key' => exact .inr ⟨id, rfl⟩
  | insert key' g s now => exact .inr ⟨id, generation_insert⟩
  | get key' now => exact .inr ⟨id, generation_get⟩
  | size => exact .inr ⟨id, rfl⟩
  | invalidate key' =>
    have hgen : (c.invalidate key').generation key =
        if key' = key then c.counter + 1 else c.generation key := generation_invalidate h
    by_cases hkey : key' = key
    · rw [if_pos hkey] at hgen
      exact .inl ⟨hkey, hgen ▸ Nat.lt_succ_of_le hle⟩
    · rw [if_neg hkey] at hgen
      exact .inr ⟨hkey, hgen⟩
  | clear => exact .inl ⟨trivial, generation_clear (c := c) ▸ Nat.lt_succ_of_le hle⟩

/-- What is kept after a request was put there by it, or it was there and the request has not ended
it. -/
theorem entry?_answer_iff {s : σ} {expiry : Instant} :
    StreamCache.entry? (c.answer q).2 key = some ⟨s, expiry⟩ ↔
      (∃ g t, (⟨q, (c.answer q).1⟩ : CacheUse σ) = ⟨.insert key g s t, true⟩ ∧
        expiry = t.after c.ttl) ∨
      (c.entry? key = some ⟨s, expiry⟩ ∧ ¬CacheUse.Ends key expiry ⟨q, (c.answer q).1⟩) := by
  have hother : (∀ g t a, (⟨q, (c.answer q).1⟩ : CacheUse σ) ≠ ⟨.insert key g s t, a⟩) →
      (StreamCache.entry? (c.answer q).2 key = some ⟨s, expiry⟩ ↔
        c.entry? key = some ⟨s, expiry⟩ ∧ ¬CacheUse.Ends key expiry ⟨q, (c.answer q).1⟩) →
      (StreamCache.entry? (c.answer q).2 key = some ⟨s, expiry⟩ ↔
        (∃ g t, (⟨q, (c.answer q).1⟩ : CacheUse σ) = ⟨.insert key g s t, true⟩ ∧
          expiry = t.after c.ttl) ∨
        (c.entry? key = some ⟨s, expiry⟩ ∧
          ¬CacheUse.Ends key expiry ⟨q, (c.answer q).1⟩)) := by
    intro hne hiff
    refine hiff.trans (or_iff_right ?_).symm
    rintro ⟨g, t, heq, -⟩
    exact hne g t true heq
  cases q with
  | generation key' => exact hother (by rintro _ _ _ ⟨⟩) (and_iff_left id).symm
  | size => exact hother (by rintro _ _ _ ⟨⟩) (and_iff_left id).symm
  | clear => exact hother (by rintro _ _ _ ⟨⟩) ⟨(by rintro ⟨⟩), fun h => absurd trivial h.2⟩
  | invalidate key' =>
    refine hother (by rintro _ _ _ ⟨⟩) (Iff.trans entry?_invalidate_iff ?_)
    exact and_comm
  | get key' now =>
    refine hother (by rintro _ _ _ ⟨⟩) (Iff.trans entry?_get_iff ?_)
    refine and_congr_right fun _ => ?_
    change _ ↔ ¬(key' = key ∧ now.isBefore expiry = false)
    rw [not_and, Bool.not_eq_false]
  | insert key' g s' now =>
    refine entry?_insert_iff.trans ?_
    change _ ↔ (∃ g₁ t, (⟨.insert key' g s' now, (c.insert key' g s' now).1⟩ : CacheUse σ) =
      ⟨.insert key g₁ s t, true⟩ ∧ expiry = t.after c.ttl) ∨
        (c.entry? key = some ⟨s, expiry⟩ ∧ ¬(key' = key ∧ (c.insert key' g s' now).1 = true))
    split
    next hkept =>
      obtain ⟨rfl, hkept⟩ := hkept
      rw [hkept]
      constructor
      · rintro ⟨⟩
        exact .inl ⟨g, now, rfl, rfl⟩
      · rintro (⟨g₁, t, heq, rfl⟩ | ⟨-, hnot⟩)
        · cases heq
          rfl
        · exact absurd ⟨rfl, rfl⟩ hnot
    next hkept =>
      rw [and_iff_left hkept]
      refine (or_iff_right ?_).symm
      rintro ⟨g₁, t, heq, -⟩
      refine hkept ?_
      have hrequest := congrArg CacheUse.request heq
      cases hrequest
      exact ⟨rfl, eq_of_heq (CacheUse.mk.inj heq).2⟩

/-! ### Records -/

@[simp] theorem record_nil (ttl : Duration) : record ttl ([] : List (CacheRequest σ)) = [] := rfl

@[simp] theorem reached_nil (ttl : Duration) :
    reached ttl ([] : List (CacheRequest σ)) = empty ttl := rfl

/-- The last request is answered by the cache that the requests before it have left. -/
theorem record_concat (ttl : Duration) (qs : List (CacheRequest σ)) (q : CacheRequest σ) :
    record ttl (qs ++ [q]) = ⟨q, ((reached ttl qs).answer q).1⟩ :: record ttl qs := by
  rw [record, List.foldl_concat]
  rfl

theorem reached_concat (ttl : Duration) (qs : List (CacheRequest σ)) (q : CacheRequest σ) :
    reached ttl (qs ++ [q]) = ((reached ttl qs).answer q).2 := by
  rw [reached, List.foldl_concat]
  rfl

/-- **The record has one entry for each request.** -/
theorem request_record (ttl : Duration) (qs : List (CacheRequest σ)) :
    (record ttl qs).map (·.request) = qs.reverse := by
  induction qs using List.reverseRecOn with
  | nil => rw [record_nil, List.map_nil, List.reverse_nil]
  | append_singleton qs q ih => rw [record_concat, List.map_cons, ih, List.reverse_concat]

/-- What one more use does to what is kept. -/
theorem keeps_cons_iff {u : CacheUse σ} {us : List (CacheUse σ)} {s : σ} {expiry : Instant} :
    Keeps ttl (u :: us) key s expiry ↔
      (∃ g t, u = ⟨.insert key g s t, true⟩ ∧ expiry = t.after ttl) ∨
        (Keeps ttl us key s expiry ∧ ¬u.Ends key expiry) := by
  constructor
  · rintro ⟨g, t, newer, older, hsplit, hexpiry, hnewer⟩
    rcases List.cons_eq_append_iff.1 hsplit with ⟨-, heq⟩ | ⟨newer, rfl, rfl⟩
    · exact .inl ⟨g, t, (List.cons.inj heq).1.symm, hexpiry⟩
    · obtain ⟨hu, hnewer⟩ := List.forall_mem_cons.1 hnewer
      exact .inr ⟨⟨g, t, newer, older, rfl, hexpiry, hnewer⟩, hu⟩
  · rintro (⟨g, t, rfl, hexpiry⟩ | ⟨⟨g, t, newer, older, rfl, hexpiry, hnewer⟩, hu⟩)
    · exact ⟨g, t, [], us, rfl, hexpiry, by simp⟩
    · exact ⟨g, t, u :: newer, older, rfl, hexpiry, List.forall_mem_cons.2 ⟨hu, hnewer⟩⟩

/-- A cache and its record are in step. -/
structure Tracks (ttl : Duration) (us : List (CacheUse σ)) (c : StreamCache σ) : Prop where
  stamped : c.Stamped
  ttl_eq : c.ttl = ttl
  /-- A generation that was taken is the key's as long as the key is not dropped. -/
  taken : ∀ {key mid older} {g : Nat}, us = mid ++ ⟨.generation key, g⟩ :: older →
    g ≤ c.generation key ∧ (c.generation key = g ↔ ∀ u ∈ mid, ¬u.Drops key)
  entries : ∀ key s expiry, c.entry? key = some ⟨s, expiry⟩ ↔ Keeps ttl us key s expiry
  truthful : Truthful ttl us

theorem tracks_empty (ttl : Duration) : Tracks ttl [] (empty ttl : StreamCache σ) where
  stamped := stamped_empty ttl
  ttl_eq := rfl
  taken := by
    intro key mid older g h
    cases mid <;> cases h
  entries := by
    intro key s expiry
    constructor
    · rintro ⟨⟩
    · rintro ⟨g, t, newer, older, h, -⟩
      cases newer <;> cases h
  truthful :=
    { kept := by
        intro newer between older key g s now a h
        cases newer <;> cases h
      found := by
        intro newer older key now a h
        cases newer <;> cases h
      counted := by
        intro newer older n h
        cases newer <;> cases h
      expires := fun t now ht hnow => Instant.isBefore_after_iff ht hnow ttl }

variable {us : List (CacheUse σ)}

/-- The next answer is the one that the record calls for. -/
theorem Tracks.truthful_cons (h : Tracks ttl us c) (q : CacheRequest σ) :
    Truthful ttl (⟨q, (c.answer q).1⟩ :: us) where
  kept := by
    intro newer between older key g s now a hsplit
    rcases List.cons_eq_append_iff.1 hsplit with ⟨-, heq⟩ | ⟨newer, -, hus⟩
    · obtain ⟨hu, hus⟩ := List.cons.inj heq
      rw [(answer_of_eq hu).2]
      exact fst_insert_eq_true_iff.trans (h.taken hus.symm).2
    · exact h.truthful.kept hus
  found := by
    intro newer older key now a hsplit s
    rcases List.cons_eq_append_iff.1 hsplit with ⟨-, heq⟩ | ⟨newer, -, hus⟩
    · obtain ⟨hu, rfl⟩ := List.cons.inj heq
      rw [(answer_of_eq hu).2]
      refine fst_get_eq_some_iff.trans (exists_congr fun expiry => ?_)
      rw [h.entries]
    · exact h.truthful.found hus s
  counted := by
    intro newer older n hsplit
    rcases List.cons_eq_append_iff.1 hsplit with ⟨-, heq⟩ | ⟨newer, -, hus⟩
    · obtain ⟨hu, rfl⟩ := List.cons.inj heq
      obtain ⟨keys, hnodup, hmem, hsize⟩ := c.exists_keys
      refine ⟨keys, hnodup, fun key => (hmem key).trans ?_, (answer_of_eq hu).2.trans hsize⟩
      constructor
      · rintro ⟨⟨s, expiry⟩, he⟩
        exact ⟨s, expiry, (h.entries key s expiry).1 he⟩
      · rintro ⟨s, expiry, hkeeps⟩
        exact ⟨⟨s, expiry⟩, (h.entries key s expiry).2 hkeeps⟩
    · exact h.truthful.counted hus
  expires := h.truthful.expires

/-- **One more request keeps the cache and its record in step.** -/
theorem Tracks.answer (h : Tracks ttl us c) (q : CacheRequest σ) :
    Tracks ttl (⟨q, (c.answer q).1⟩ :: us) (c.answer q).2 where
  stamped := stamped_answer h.stamped q
  ttl_eq := (ttl_answer c q).trans h.ttl_eq
  taken := by
    intro key mid older g hsplit
    rcases List.cons_eq_append_iff.1 hsplit with ⟨rfl, heq⟩ | ⟨mid, rfl, hus⟩
    · -- the generation was taken just now
      obtain ⟨rfl, rfl⟩ := answer_of_eq (List.cons.inj heq).1
      exact ⟨Nat.le_refl _, iff_of_true rfl (by simp)⟩
    · obtain ⟨hle, hiff⟩ := h.taken hus
      rcases generation_answer h.stamped q key with ⟨hdrops, hlt⟩ | ⟨hnot, heq⟩
      · refine ⟨Nat.le_of_lt (Nat.lt_of_le_of_lt hle hlt), iff_of_false ?_ ?_⟩
        · exact Nat.ne_of_gt (Nat.lt_of_le_of_lt hle hlt)
        · exact fun hall => hall _ List.mem_cons_self hdrops
      · rw [heq, List.forall_mem_cons]
        exact ⟨hle, hiff.trans (and_iff_right hnot).symm⟩
  entries key s expiry := by
    rw [keeps_cons_iff, entry?_answer_iff, h.entries, h.ttl_eq]
  truthful := h.truthful_cons q

/-- A cache that was empty at first and its record are in step. -/
theorem tracks_reached (ttl : Duration) (qs : List (CacheRequest σ)) :
    Tracks ttl (record ttl qs) (reached ttl qs) := by
  induction qs using List.reverseRecOn with
  | nil =>
    rw [record_nil, reached_nil]
    exact tracks_empty ttl
  | append_singleton qs q ih =>
    rw [record_concat, reached_concat]
    exact ih.answer q

/-- **Every record is truthful**: whether a stream is kept, which one is found and how many there
are can be told from the uses before, whatever is asked and whatever the clock shows. -/
theorem truthful_record (ttl : Duration) (qs : List (CacheRequest σ)) :
    Truthful ttl (record ttl qs) :=
  (tracks_reached ttl qs).truthful

/-- A stream that was read before its key was invalidated is refused, and the one that was read
afterwards is kept, found and given up when it has expired. -/
theorem truthful_of_refused : ∃ (key : StreamKey) (ttl : Duration) (us : List (CacheUse String)),
    us = [⟨.size, (0 : Nat)⟩, ⟨.get key ⟨60, 0⟩, (none : Option String)⟩, ⟨.size, (1 : Nat)⟩,
      ⟨.get key ⟨59, 0⟩, some "new"⟩, ⟨.insert key 1 "new" ⟨0, 0⟩, true⟩,
      ⟨.generation key, (1 : Nat)⟩, ⟨.insert key 0 "old" ⟨0, 0⟩, false⟩, ⟨.invalidate key, ()⟩,
      ⟨.generation key, (0 : Nat)⟩] ∧
    record ttl (us.map (·.request)).reverse = us ∧
    Truthful ttl (record ttl (us.map (·.request)).reverse) :=
  ⟨⟨"order", ⟨"order-1", rfl⟩⟩, .ofSeconds 60, _, rfl, rfl, truthful_record _ _⟩

end StreamCache

end EventLedger
