import EventLedger.Orders.Store
import EventLedger.Proofs.Clients.LastBatch
import EventLedger.Proofs.Reading.AtRest
import EventLedger.Proofs.Requests
import Mathlib.Algebra.Group.Nat.Defs
import Mathlib.Data.List.TakeWhile

/-!
# The last batch

Whether an update was made before is told by the last batch of the stream.  A snapshot may hide the
beginning of that batch, or all of it, so a loaded stream is trusted only if it shows an event
before the batch or begins with the first event of all.  Otherwise the stream is read again in
windows that grow until one of them shows such an event; what is found never depends on where a
snapshot is.

A window is at least four times as long as the one before, up to the greatest number, so the 31st at
the latest begins with the first event.

## Main definitions

* `IsLastRun es b` — the events `b` are the longest run at the end of `es` that shares the last
  event's batch.
* `AggregateStore.window` — the windows, and `AggregateStore.readings` — what of them was read.
* `AggregateStore.FindsLastBatch s id es` — what the store finds while its storage holds `es`.

## Main results

* `isLastRun_iff` — the longest run is the trailing batch.
* `AggregateStore.yields_lastBatch` — the windows end with the last batch of the stream.
* `AggregateStore.readings_of_lastBatch` — there are 31 of them at most, whatever is answered.
* `AggregateStore.findsLastBatch_of_stream` — **the last batch is found if it carries the source, as
  a whole, and whatever snapshot the stream was loaded from.**
-/

namespace EventLedger

variable {σ ε : Type} {key : StreamKey} {es b : List CommittedEvent}

/-! ### Runs at the end -/

/-- The events `b` are the longest run at the end of `es` that shares the last event's batch. -/
structure IsLastRun (es b : List CommittedEvent) : Prop where
  /-- The events of the run share the last event's batch, -/
  shared : ∀ last ∈ es.getLast?, ∀ e ∈ b, e.batchId = last.batchId
  /-- and the event before the run, if there is one, has another. -/
  longest : ∃ before, es = before ++ b ∧
    ∀ last ∈ es.getLast?, ∀ e ∈ before.getLast?, e.batchId ≠ last.batchId

/-- **The longest run is the trailing batch.** -/
theorem isLastRun_iff : IsLastRun es b ↔ b = trailingBatch es := by
  rcases List.eq_nil_or_concat es with rfl | ⟨front, last, rfl⟩
  · constructor
    · rintro ⟨-, before, hsplit, -⟩
      exact (List.append_eq_nil_iff.1 hsplit.symm).2
    · rintro rfl
      exact ⟨by simp, [], rfl, by simp⟩
  · rw [List.concat_eq_append]
    generalize hes : front ++ [last] = es
    have hlast : es.getLast? = some last := by rw [← hes, List.getLast?_concat]
    have htrailing : trailingBatch es =
        (es.reverse.takeWhile fun e => e.batchId == last.batchId).reverse := by
      rw [trailingBatch, hlast]
    constructor
    · rintro ⟨hshared, before, hsplit, hlongest⟩
      have hall : ∀ e ∈ b.reverse, (e.batchId == last.batchId) = true := by
        intro e he
        rw [beq_iff_eq]
        exact hshared last hlast e (List.mem_reverse.1 he)
      have hnone : before.reverse.takeWhile (fun e => e.batchId == last.batchId) = [] := by
        rcases List.eq_nil_or_concat before with rfl | ⟨front', e, rfl⟩
        · rfl
        · have hother := hlongest last hlast e (by simp)
          rw [List.concat_eq_append, List.reverse_concat,
            List.takeWhile_cons_of_neg (by simpa using hother)]
      rw [htrailing, hsplit, List.reverse_append, List.takeWhile_append_of_pos hall, hnone,
        List.append_nil, List.reverse_reverse]
    · rintro rfl
      rw [htrailing]
      refine ⟨?_, (es.reverse.dropWhile fun e => e.batchId == last.batchId).reverse, ?_, ?_⟩
      · intro last' hlast' e he
        obtain rfl := Option.some.inj (hlast.symm.trans hlast')
        have hsame := List.mem_takeWhile_imp (List.mem_reverse.1 he)
        exact beq_iff_eq.1 hsame
      · rw [← List.reverse_append, List.takeWhile_append_dropWhile, List.reverse_reverse]
      · intro last' hlast' e he
        obtain rfl := Option.some.inj (hlast.symm.trans hlast')
        rw [List.getLast?_reverse] at he
        have hnot := List.head?_dropWhile_not (fun e : CommittedEvent => e.batchId == last.batchId)
          es.reverse
        rw [he] at hnot
        simpa using hnot

/-! ### Windows -/

namespace AggregateStore

variable {s : AggregateStore σ ε} {id : AggregateId}

/-- The windows in which the last batch is looked for, each four times the one before as far as
numbers go. -/
def window : Nat → Nat
  | 0 => firstWindow
  | n + 1 => min (window n * 4) greatestSequence

/-- What was read from storage, in order. -/
def readings (t : List (Exchange (storeInterface σ ε))) : List StorageRequest :=
  t.filterMap fun x =>
    match x.request with
    | .storage q => some q
    | _ => none

theorem window_eq (n : Nat) : window n = min (firstWindow * 4 ^ n) greatestSequence := by
  induction n with
  | zero => rfl
  | succ n ih =>
    rw [window, ih, Nat.pow_succ, ← Nat.mul_assoc]
    omega

/-- A window that reaches beyond the greatest number begins with the first event, as the greatest
window does. -/
theorem windowStart_min {version w : Nat} (h : version ≤ greatestSequence) :
    windowStart version (min w greatestSequence) = windowStart version w := by
  unfold windowStart
  omega

/-- The 31st window begins with the first event. -/
theorem windowStart_last {version : Nat} (h : version ≤ greatestSequence) :
    windowStart version (firstWindow * 4 ^ 30) = 1 := by
  have hlong : firstWindow * 4 ^ 30 = greatestSequence + 1 := by decide
  rw [hlong]
  unfold windowStart
  omega

/-- **The windows end with the last batch of the stream.** -/
theorem yields_lastBatch (hes : IsStream key es) {version w : Nat} (hw : 0 < w) :
    Call.Yields (AtRest key es) (lastBatch key version w : StoreCall σ ε _)
      (.ok (trailingBatch es)) := by
  induction hm : version - w using Nat.strongRecOn generalizing w with
  | ind m ih =>
    rw [lastBatch]
    refine yields_checkLive.bind ((yields_load _).bind ?_)
    dsimp only
    split
    next hstop =>
      have hresult : trailingBatch (es.filter (windowStart version w ≤ ·.sequence)) =
          trailingBatch es := by
        rcases hstop with hone | hlt | hzero
        · rw [hone, hes.filter_one_le]
        · rw [← trailingBatch_append_of_lt (es.filter (·.sequence < windowStart version w)) hlt,
            filter_lt_append_filter_le hes.ascending]
        · omega
      rw [hresult]
      exact .done _
    next hgo =>
      have hlt := window_lt_of_windowStart_ne_one fun h => hgo (.inl h)
      exact ih (version - w * 4) (by omega) (by omega) rfl

/-- The readings from the window number `k` on. -/
theorem readings_of_windows {version : Nat} (hversion : version ≤ greatestSequence) {k : Nat}
    (hk : k ≤ 30) {t : List (Exchange (storeInterface σ ε))}
    {r : Except Error (List CommittedEvent)}
    (h : Call.Traces (lastBatch key version (firstWindow * 4 ^ k) : StoreCall σ ε _) t r) :
    ∃ n ≤ 31 - k, readings t =
      (List.range' k n).map fun i => .load key (windowStart version (window i)) := by
  induction hm : 30 - k using Nat.strongRecOn generalizing k t with
  | ind m ih =>
    have hwindow : windowStart version (window k) = windowStart version (firstWindow * 4 ^ k) := by
      rw [window_eq, windowStart_min hversion]
    have hone : [StorageRequest.load key (windowStart version (firstWindow * 4 ^ k))] =
        (List.range' k 1).map fun i => .load key (windowStart version (window i)) := by
      rw [List.range'_one, List.map_singleton, hwindow]
    rw [lastBatch] at h
    rcases Call.traces_bind_iff.1 h with ⟨_, t₁, t₂, rfl, hcheck, hrest⟩ | ⟨e, hcheck, -⟩
    case inr =>
      obtain ⟨_, rfl, -⟩ := StoreCall.traces_checkLive_iff.1 hcheck
      exact ⟨0, Nat.zero_le _, rfl⟩
    obtain ⟨_, rfl, -⟩ := StoreCall.traces_checkLive_iff.1 hcheck
    rcases Call.traces_bind_iff.1 hrest with ⟨events, t₃, t₄, rfl, hload, hend⟩ | ⟨e, hload, -⟩
    case inr =>
      obtain rfl := StoreCall.traces_storage_iff.1 hload
      exact ⟨1, by omega, hone⟩
    obtain rfl := StoreCall.traces_storage_iff.1 hload
    dsimp only at hend
    split at hend
    next =>
      obtain ⟨rfl, -⟩ := Call.traces_done_iff.1 hend
      exact ⟨1, by omega, hone⟩
    next hgo =>
      -- the 31st window would have been the last
      have hlt : k < 30 := by
        refine Nat.lt_of_le_of_ne hk ?_
        rintro rfl
        exact hgo (.inl (windowStart_last hversion))
      rw [Nat.mul_assoc, ← Nat.pow_succ] at hend
      obtain ⟨n, hn, hreadings⟩ := ih (30 - (k + 1)) (by omega) hlt hend rfl
      refine ⟨n + 1, by omega, ?_⟩
      rw [List.range'_succ, List.map_cons, hwindow, ← hreadings]
      rfl

/-- **The windows are 31 at most**, whatever is answered. -/
theorem readings_of_lastBatch {version : Nat} (hversion : version ≤ greatestSequence)
    {t : List (Exchange (storeInterface σ ε))} {r : Except Error (List CommittedEvent)}
    (h : Call.Traces (lastBatch key version firstWindow : StoreCall σ ε _) t r) :
    ∃ n ≤ 31, readings t =
      (List.range n).map fun i => .load key (windowStart version (window i)) := by
  obtain ⟨n, hn, hreadings⟩ := readings_of_windows hversion (Nat.zero_le 30) h
  rw [← List.range_eq_range'] at hreadings
  exact ⟨n, hn, hreadings⟩

/-! ### The batch of a source -/

/-- A batch is taken for that of a source if the last event carries it. -/
theorem batchIfCarried_eq_some_iff {source : String} :
    batchIfCarried source (trailingBatch es) = some b ↔
      (∃ last, es.getLast? = some last ∧ last.metadata.sourceId = some source) ∧
        IsLastRun es b := by
  unfold batchIfCarried
  rw [getLast?_trailingBatch, isLastRun_iff]
  cases hlast : es.getLast? with
  | none => simp
  | some last =>
    by_cases hcarries : last.metadata.sourceId = some source
    · simp [carries, hcarries, eq_comm]
    · simp [carries, hcarries]

/-- **The batch of a source is looked for in the whole stream**, whatever snapshot was loaded. -/
theorem yields_batchOfSource (hes : IsStream (s.keyOf id) es) {l : LoadedStream ε}
    (hl : l.Covers es) (hle : l.snapshotVersion ≤ lastNumber es) (source : String) :
    Call.Yields (AtRest (s.keyOf id) es) (s.batchOfSource id l source)
      (.ok (batchIfCarried source (trailingBatch es))) := by
  have happend := hl.append hes
  unfold batchOfSource
  split
  next hother =>
    -- the last event alone tells that the batch has another source
    cases hlast : l.committed.getLast? with
    | none => simp [hlast] at hother
    | some last =>
      have hlast' : es.getLast? = some last := by
        rw [← happend, List.getLast?_append, hlast, Option.some_or]
      have hnone : batchIfCarried source (trailingBatch es) = none := by
        simpa [batchIfCarried, getLast?_trailingBatch, hlast', hlast] using hother
      rw [hnone]
      exact .done _
  next =>
    dsimp only
    split
    next hshown =>
      obtain ⟨-, hcomplete⟩ : trailingBatch l.committed ≠ [] ∧
          ((trailingBatch l.committed).length < l.committed.length ∨ l.snapshot = none) := by
        simpa using hshown
      have hwhole : trailingBatch l.committed = trailingBatch es := by
        rcases hcomplete with hlt | hnone
        · rw [← trailingBatch_append_of_lt _ hlt, happend]
        · rw [hl.committed_eq hes hnone]
      rw [hwhole]
      exact .done _
    next =>
      split
      next hzero =>
        rw [hl.version_eq hes hle] at hzero
        obtain rfl := hes.eq_nil_of_lastNumber hzero
        exact .done _
      next => exact (yields_lastBatch hes (by decide)).bind (.done _)

/-- What a store finds of the last batch of an aggregate while its storage holds the events `es`. -/
structure FindsLastBatch (s : AggregateStore σ ε) (id : AggregateId) (es : List CommittedEvent) :
    Prop where
  /-- A stream that is loaded covers the events: all of them, or those after a snapshot. -/
  loaded : ∀ t l, Call.Traces (s.readStream id) t (.ok l) →
    (∀ x ∈ t, AtRest (s.keyOf id) es x) → l.Covers es
  /-- From such a stream, with any snapshot up to the last number, a batch is found if and only if
  the last event carries the source, and it is the longest run at the end of all events. -/
  found : ∀ (l : LoadedStream ε) (source : String), l.Covers es →
    l.snapshotVersion ≤ lastNumber es →
    ∃ r, Call.Yields (AtRest (s.keyOf id) es) (s.batchOfSource id l source) (.ok r) ∧
      ∀ b, r = some b ↔
        (∃ last, es.getLast? = some last ∧ last.metadata.sourceId = some source) ∧ IsLastRun es b
  /-- The windows end with that run from every version on, -/
  windows : ∀ version, ∃ b, IsLastRun es b ∧
    Call.Yields (AtRest (s.keyOf id) es)
      (lastBatch (s.keyOf id) version firstWindow : StoreCall σ ε _) (.ok b)
  /-- and there are at most 31, whatever the storage answers. -/
  bounded : ∀ version ≤ greatestSequence, ∀ t r,
    Call.Traces (lastBatch (s.keyOf id) version firstWindow : StoreCall σ ε _) t r →
    ∃ n ≤ 31, readings t =
      (List.range n).map fun i => .load (s.keyOf id) (windowStart version (window i))

/-- **The last batch is found if it carries the source, as a whole, and whatever snapshot the stream
was loaded from.** -/
theorem findsLastBatch_of_stream (hes : IsStream (s.keyOf id) es) : s.FindsLastBatch id es where
  loaded _ _ := covers_of_readStream
  found _ source hl hle :=
    ⟨_, yields_batchOfSource hes hl hle source, fun _ => batchIfCarried_eq_some_iff⟩
  windows _ := ⟨_, isLastRun_iff.2 rfl, yields_lastBatch hes (by decide)⟩
  bounded _ hversion _ _ := readings_of_lastBatch hversion

/-- An event of the order `order-2` by the source `cmd`, the first of its batch and nineteen of the
next, for examples. -/
def straddlingEvent (n : Nat) : CommittedEvent :=
  ⟨MemoryStorage.sampleKey, n, n, ⟨"ItemAdded", 2⟩, .str "apple",
    .ofList [(Metadata.sourceIdKey, "cmd")], if n = 1 then .ofNat 0 else .ofNat 1⟩

/-- A batch of one event and one of nineteen, more than the first window shows, for examples. -/
def straddlingEvents : List CommittedEvent := (List.range' 1 20).map straddlingEvent

/-- The end of those events after a snapshot inside of the second batch, for examples. -/
def straddlingStream : LoadedStream OrderEvent :=
  ⟨some ⟨MemoryStorage.sampleKey, 18, .null, .empty⟩, straddlingEvents.drop 18, [], 20⟩

/-- A batch around a snapshot, longer than the first window, is found as a whole. -/
theorem found_of_straddling :
    IsStream (OrderStore.plain.keyOf MemoryStorage.sampleKey.id) straddlingEvents ∧
      straddlingStream.Covers straddlingEvents ∧
      Call.Yields (AtRest MemoryStorage.sampleKey straddlingEvents)
        (OrderStore.plain.batchOfSource MemoryStorage.sampleKey.id straddlingStream "cmd")
        (.ok (some (straddlingEvents.drop 1))) := by
  have hes : IsStream (OrderStore.plain.keyOf MemoryStorage.sampleKey.id) straddlingEvents := by
    refine ⟨?_, ?_, ?_⟩
    · intro e he
      obtain ⟨n, -, rfl⟩ := List.mem_map.1 he
      rfl
    · exact List.pairwise_map.2 List.pairwise_lt_range'
    · intro e he
      obtain ⟨n, hn, rfl⟩ := List.mem_map.1 he
      have := List.mem_range'_1.1 hn
      exact ⟨this.1, Nat.le_trans (Nat.le_of_lt this.2) (by decide)⟩
  have hcovers : straddlingStream.Covers straddlingEvents := ⟨by rfl, by rfl⟩
  refine ⟨hes, hcovers, ?_⟩
  obtain ⟨r, hyields, hiff⟩ := (findsLastBatch_of_stream hes).found straddlingStream "cmd" hcovers
    (by decide)
  have hlast : straddlingEvents.getLast? = some (straddlingEvent 20) := by rfl
  have hrun : IsLastRun straddlingEvents (straddlingEvents.drop 1) := by
    constructor
    · intro last hlast' e he
      obtain rfl := Option.some.inj (hlast.symm.trans hlast')
      obtain ⟨n, hn, rfl⟩ : ∃ n ∈ List.range' 2 19, straddlingEvent n = e := List.mem_map.1 he
      have hne : n ≠ 1 := Nat.ne_of_gt (List.mem_range'_1.1 hn).1
      simp [straddlingEvent, hne]
    · refine ⟨[straddlingEvent 1], rfl, ?_⟩
      intro last hlast' e he
      obtain rfl := Option.some.inj (hlast.symm.trans hlast')
      obtain rfl := Option.some.inj he
      decide
  rw [(hiff _).2 ⟨⟨_, hlast, rfl⟩, hrun⟩] at hyields
  exact hyields

end AggregateStore

end EventLedger
