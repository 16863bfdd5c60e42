import EventLedger.Proofs.Snapshots.Newest
import EventLedger.Proofs.Tables.Calm

/-!
# Snapshots in tables

In memory a snapshot is compared with the one that is there; in the tables the same comparison is the
condition under which a row is put in the place of another.  There is one row for an aggregate, which
holds the snapshot that the shelf holds, and every request keeps it so: the row that a statement
finds by the name and the identifier is the entry of the key.  So both storages reply the same to
every request about snapshots, and the tables hold the newest one because the shelf does.

Numbers that do not fit the column are refused by the tables only, and values are taken to be read
back as they were written.

## Main definitions

* `Snapshot.ReadsBack`, `StorageRequest.OfSnapshots` — snapshots that the columns hold as they are,
  and the requests about snapshots.
* `SnapshotShelf.Mirrors` — the table holds what the shelf holds.
* `Session.ServesAll` — requests are made one after the other.
* `Session.SameSnapshots` — the tables reply what the storage in memory replies.

## Main results

* `Server.find?_upsert` — what an insertion does to the row of an aggregate.
* `SnapshotShelf.Mirrors.of_serve` — **a request about snapshots is replied to as in memory**, and the
  table holds what the shelf holds after it.
* `Session.newest_of_requests` — **both storages keep the newest snapshot of every aggregate.**
-/

namespace EventLedger

open Call (RunsTo)
open TableStorage

variable {key : StreamKey} {x : Snapshot} {shelf : SnapshotShelf} {s : Server} {w w' : Session}
  {strategy : RetryStrategy} {qs : List StorageRequest}

/-! ### Rows of snapshots -/

/-- The number fits its column, and the values are read back as they were written. -/
structure Snapshot.ReadsBack (x : Snapshot) : Prop where
  sequence : x.sequence ≤ greatestLong
  state : storedValue x.state = x.state
  metadata : storedValue x.metadata.encode = x.metadata.encode

/-- A request about snapshots; one that is brought is read back. -/
def StorageRequest.OfSnapshots : StorageRequest → Prop
  | .loadSnapshot _ => True
  | .storeSnapshot x => x.ReadsBack
  | .deleteSnapshots _ => True
  | _ => False

namespace SnapshotRow

/-- The row for a snapshot. -/
def of (x : Snapshot) : SnapshotRow :=
  ⟨x.key.name, x.key.id.value, x.sequence, x.state, x.metadata.encode⟩

theorem isOf_of (x : Snapshot) (key : StreamKey) : (of x).isOf key = decide (x.key = key) := by
  rw [Bool.eq_iff_iff, decide_eq_true_eq, StreamKey.eq_iff, isOf, Bool.and_eq_true, beq_iff_eq,
    beq_iff_eq]
  rfl

theorem stored_of (h : x.ReadsBack) : (of x).stored = of x := by
  simp only [stored, of, h.state, h.metadata]

/-- A row is read back as the snapshot that it was written for. -/
theorem decode_of (x : Snapshot) : (of x).decode x.key = .ok x := by
  simp only [decode, of, decodeMetadata, Metadata.decode_encode_eq, ofLong_natCast]
  rfl

/-- Rows of one name and identifier are of the same aggregate. -/
theorem isOf_congr {r r' : SnapshotRow} (hname : r.name = r'.name) (hid : r.id = r'.id) :
    r.isOf key = r'.isOf key := by
  rw [isOf, isOf, hname, hid]

end SnapshotRow

/-- **An insertion** puts the row in the place of an older one of its aggregate, and leaves the rows
of the others alone. -/
theorem Server.find?_upsert (row : SnapshotRow) (rows : List SnapshotRow) (key : StreamKey) :
    (upsert row rows).find? (·.isOf key) =
      if row.isOf key then
        some (match rows.find? (·.isOf key) with
          | some r => if r.sequence < row.sequence then row else r
          | none => row)
      else rows.find? (·.isOf key) := by
  induction rows with
  | nil => rw [upsert, List.find?_singleton, List.find?_nil]
  | cons r rest ih =>
    rw [upsert]
    by_cases hsame : r.name = row.name ∧ r.id = row.id
    · -- the row of the aggregate is here, and so is the one that stays
      have hof : r.isOf key = row.isOf key := SnapshotRow.isOf_congr hsame.1 hsame.2
      have hkept : (if r.sequence < row.sequence then row else r).isOf key = row.isOf key := by
        split
        · rfl
        · exact hof
      rw [if_pos hsame, List.find?_cons, List.find?_cons, hkept, hof]
      cases row.isOf key <;> rfl
    · rw [if_neg hsame, List.find?_cons, List.find?_cons, ih]
      cases hr : r.isOf key with
      | false => rfl
      | true =>
        -- a row of this aggregate with another name or identifier than the new one
        have hrow : ¬row.isOf key = true := by
          intro hrow
          simp only [SnapshotRow.isOf, Bool.and_eq_true, beq_iff_eq] at hr hrow
          exact hsame ⟨hr.1.trans hrow.1.symm, hr.2.trans hrow.2.symm⟩
        simp only [if_neg hrow]

theorem Server.find?_deleteSnapshots (rows : List SnapshotRow) (key key' : StreamKey) :
    (rows.filter fun r => !r.isOf key).find? (·.isOf key') =
      if key = key' then none else rows.find? (·.isOf key') := by
  split
  next hkey =>
    subst hkey
    rw [List.find?_eq_none]
    intro r hr
    simpa using (List.mem_filter.1 hr).2
  next hkey =>
    rw [List.find?_filter]
    refine congrArg (rows.find? ·) (funext fun r => ?_)
    by_cases hr : r.isOf key' = true
    · have hother : r.isOf key = false := by
        rw [← Bool.not_eq_true]
        intro hof
        simp only [SnapshotRow.isOf, Bool.and_eq_true, beq_iff_eq] at hr hof
        exact hkey (StreamKey.eq_iff.2 ⟨hof.1.symm.trans hr.1, hof.2.symm.trans hr.2⟩)
      simp [hr, hother]
    · simp [hr]

/-! ### The table and the shelf -/

namespace SnapshotShelf

/-- The table holds for every aggregate what the shelf holds. -/
structure Mirrors (shelf : SnapshotShelf) (s : Server) : Prop where
  rows : ∀ key, s.snapshots.find? (·.isOf key) = (shelf.load key).map SnapshotRow.of
  keyed : ∀ key x, shelf.load key = some x → x.key = key

theorem mirrors_empty : Mirrors empty {} where
  rows := fun _ => rfl
  keyed := by
    rintro key x ⟨⟩

namespace Mirrors

variable (h : Mirrors shelf s)

include h

/-- **A snapshot that is put into both.** -/
theorem store (x : Snapshot) :
    Mirrors (shelf.store x) { s with snapshots := Server.upsert (.of x) s.snapshots } where
  rows := by
    intro key
    rw [Server.find?_upsert, h.rows, load_store, SnapshotRow.isOf_of]
    by_cases hkey : x.key = key
    · rw [decide_eq_true hkey, if_pos rfl, if_pos hkey]
      cases shelf.load key with
      | none => rfl
      | some c =>
        -- the condition of the statement is the comparison of the shelf
        have hlt : (SnapshotRow.of c).sequence < (SnapshotRow.of x).sequence ↔
            c.sequence < x.sequence := Int.ofNat_lt
        simp only [Option.map_some, Snapshot.newer, hlt]
        split <;> rfl
    · rw [decide_eq_false hkey, if_neg Bool.false_ne_true, if_neg hkey]
  keyed := by
    intro key y hy
    rcases shelf.load_store_cases x key with hsame | ⟨hkey, hnew⟩
    · exact h.keyed key y (hsame ▸ hy)
    · rw [hnew] at hy
      exact Option.some.inj hy ▸ hkey

/-- **A deletion from both.** -/
theorem delete (key : StreamKey) : Mirrors (shelf.delete key)
    { s with snapshots := s.snapshots.filter fun r => !r.isOf key } where
  rows := by
    intro key'
    rw [Server.find?_deleteSnapshots, h.rows, load_delete]
    split <;> rfl
  keyed := by
    intro key' x hx
    rw [load_delete, Option.ite_none_left_eq_some] at hx
    exact h.keyed key' x hx.2

end Mirrors

/-- What a request leaves behind: the table that holds what the shelf holds, and the reply that is
given in memory. -/
def Follows (shelf : SnapshotShelf) {α : Type} (a : α) (r : Except TableError α) (w : Session) :
    Prop :=
  Mirrors shelf w.server ∧ r = .ok a

/-- An attempt that ends in this way is the last one. -/
theorem follows_of_retryTransient {heedsToken : Bool} {α : Type} {operation : TableCall α} {a : α}
    {r : Except TableError α}
    (hattempt : ∀ r w', RunsTo (Session.Goes True) operation w r w' → Follows shelf a r w')
    (hrun : RunsTo (Session.Goes True) (retryTransient strategy heedsToken operation) w r w') :
    Follows shelf a r w' := by
  refine Session.of_retryTransient (Q := Follows shelf a) ?_ hrun
  intro r₁ w₁ hattempted
  have hfollows := hattempt r₁ w₁ hattempted
  refine ⟨hfollows, ?_⟩
  rintro f rfl
  cases hfollows.2

namespace Mirrors

theorem of_loadSnapshot {r : Except TableError (Option Snapshot)} (h : Mirrors shelf w.server)
    (hrun : RunsTo (Session.Goes True) (serve strategy (.loadSnapshot key)) w r w') :
    Follows shelf (shelf.load key) r w' := by
  refine follows_of_retryTransient ?_ hrun
  intro r₁ w₁ hattempt
  obtain ⟨row, hrow, hrest⟩ :=
    Session.of_run_bind (by simp) (by simp) (fun _ => ⟨_, rfl⟩) hattempt
  obtain rfl : w.server.snapshots.find? (·.isOf key) = row := Except.ok.inj hrow
  rw [h.rows key] at hrest
  cases hload : shelf.load key with
  | none =>
    rw [hload] at hrest
    cases hrest
    exact ⟨h, rfl⟩
  | some x =>
    rw [hload] at hrest
    obtain rfl := h.keyed key x hload
    have hread : (SnapshotRow.of x).decode x.key = .ok x := SnapshotRow.decode_of x
    simp only [Option.map_some, hread] at hrest
    cases hrest
    exact ⟨h, rfl⟩

theorem of_storeSnapshot {r : Except TableError Unit} (h : Mirrors shelf w.server)
    (hx : x.ReadsBack)
    (hrun : RunsTo (Session.Goes True) (serve strategy (.storeSnapshot x)) w r w') :
    Follows (shelf.store x) () r w' := by
  refine follows_of_retryTransient ?_ hrun
  intro r₁ w₁ hattempt
  have hattempted : tryStoreSnapshot x = (run (.upsertSnapshot (.of x))).bind .done := by
    have hfits : toLong x.sequence "snapshot sequence number" = .ok (x.sequence : Int) :=
      if_pos hx.sequence
    rw [Call.bind_done]
    change (ledger (toLong x.sequence _)).bind _ = _
    rw [hfits]
    rfl
  rw [hattempted] at hattempt
  obtain ⟨u, -, hrest⟩ := Session.of_run_bind (by simp) (by simp) (fun _ => ⟨_, rfl⟩) hattempt
  cases hrest
  refine ⟨?_, rfl⟩
  have hstored := h.store x
  rw [← SnapshotRow.stored_of hx] at hstored
  exact hstored

theorem of_deleteSnapshots {r : Except TableError Unit} (h : Mirrors shelf w.server)
    (hrun : RunsTo (Session.Goes True) (serve strategy (.deleteSnapshots key)) w r w') :
    Follows (shelf.delete key) () r w' := by
  refine follows_of_retryTransient ?_ hrun
  intro r₁ w₁ hattempt
  rw [← Call.bind_done (run _)] at hattempt
  obtain ⟨u, -, hrest⟩ := Session.of_run_bind (by simp) (by simp) (fun _ => ⟨_, rfl⟩) hattempt
  cases hrest
  exact ⟨h.delete key, rfl⟩

/-- **A request about snapshots is replied to as in memory**, and the table holds what the shelf
holds after it. -/
theorem of_serve {m : MemoryStorage} {q : StorageRequest} {r : Except TableError q.Result}
    (h : Mirrors m.shelf w.server) (hq : q.OfSnapshots)
    (hrun : RunsTo (Session.Goes True) (serve strategy q) w r w') :
    Mirrors (m.serve q).2.shelf w'.server ∧ r.mapError TableError.toError = (m.serve q).1 := by
  cases q with
  | loadSnapshot key =>
    obtain ⟨hmirrors, rfl⟩ := h.of_loadSnapshot hrun
    exact ⟨hmirrors, rfl⟩
  | storeSnapshot x =>
    obtain ⟨hmirrors, rfl⟩ := h.of_storeSnapshot hq hrun
    exact ⟨hmirrors, rfl⟩
  | deleteSnapshots key =>
    obtain ⟨hmirrors, rfl⟩ := h.of_deleteSnapshots hrun
    exact ⟨hmirrors, rfl⟩
  | _ => exact hq.elim

end Mirrors

end SnapshotShelf

/-! ### Requests one after the other -/

namespace Session

/-- Requests are made of the tables one after the other, over a server that never fails, by callers
that do not cancel; each may end in any way that it can. -/
inductive ServesAll (strategy : RetryStrategy) (w : Session) : List StorageRequest → Session → Prop
  | nil : ServesAll strategy w [] w
  | concat {w₁ w' : Session} {qs : List StorageRequest} {q : StorageRequest}
      {r : Except TableError q.Result} (hqs : ServesAll strategy w qs w₁)
      (hq : RunsTo (Goes True) (serve strategy q) w₁ r w') : ServesAll strategy w (qs ++ [q]) w'

/-- After the requests, which can be made, the tables reply to every request about snapshots, and
they reply what the storage in memory replies after the same requests. -/
structure SameSnapshots (strategy : RetryStrategy) (qs : List StorageRequest) : Prop where
  reached : ∃ w, ServesAll strategy (start {}) qs w
  replies : ∀ w, ServesAll strategy (start {}) qs w → ∀ q : StorageRequest, q.OfSnapshots →
    (∃ r w', RunsTo (Goes True) (serve strategy q) w r w') ∧
      ∀ r w', RunsTo (Goes True) (serve strategy q) w r w' →
        r.mapError TableError.toError = ((MemoryStorage.run {} qs).serve q).1

/-- Every request can be made. -/
theorem exists_runsTo_serve (strategy : RetryStrategy) (q : StorageRequest) (w : Session) :
    ∃ r w', RunsTo (Goes True) (serve strategy q) w r w' := by
  have hasks : Call.Asks (fun _ => True) (serve strategy q) := .of_forall (fun _ => trivial) _
  exact hasks.exists_runsTo (fun w q _ => exists_goes True w q) w

theorem exists_servesAll (strategy : RetryStrategy) (w : Session) (qs : List StorageRequest) :
    ∃ w', ServesAll strategy w qs w' := by
  induction qs using List.reverseRecOn with
  | nil => exact ⟨w, .nil⟩
  | append_singleton qs q ih =>
    obtain ⟨w₁, hqs⟩ := ih
    obtain ⟨r, w', hq⟩ := exists_runsTo_serve strategy q w₁
    exact ⟨w', .concat hqs hq⟩

/-- **After requests about snapshots the table holds what the shelf holds.** -/
theorem ServesAll.mirrors (h : ServesAll strategy (start {}) qs w)
    (hqs : ∀ q ∈ qs, q.OfSnapshots) : (MemoryStorage.run {} qs).shelf.Mirrors w.server := by
  induction h with
  | nil => exact SnapshotShelf.mirrors_empty
  | @concat w₁ w' qs q r _ hq ih =>
    have hlast : MemoryStorage.run {} (qs ++ [q]) = ((MemoryStorage.run {} qs).serve q).2 :=
      MemoryStorage.run_append {} qs [q]
    have hbefore := ih fun q' hq' => hqs q' (List.mem_append_left _ hq')
    rw [hlast]
    exact (hbefore.of_serve (hqs q (by simp)) hq).1

/-- **Both storages keep the newest snapshot of every aggregate, in whatever order they come**, and
reply the same to every request about snapshots. -/
theorem newest_of_requests (strategy : RetryStrategy) (hqs : ∀ q ∈ qs, q.OfSnapshots) :
    MemoryStorage.KeepsNewest qs ∧ SameSnapshots strategy qs := by
  refine ⟨MemoryStorage.keepsNewest qs, exists_servesAll strategy _ qs, ?_⟩
  intro w hw q hq
  refine ⟨exists_runsTo_serve strategy q w, ?_⟩
  intro r w' hrun
  exact ((hw.mirrors hqs).of_serve hq hrun).2

/-! ### A race -/

/-- An aggregate of another kind with the identifier of the sample. -/
def namesake : StreamKey := ⟨"refund", MemoryStorage.sampleKey.id⟩

/-- A snapshot without content. -/
def bare (key : StreamKey) (sequence : Nat) (state : Json) : Snapshot :=
  ⟨key, sequence, state, .empty⟩

/-- Writers that bring snapshots late and twice, and a deletion in between. -/
def raced : List StorageRequest :=
  [.storeSnapshot (bare MemoryStorage.sampleKey 9 .null), .storeSnapshot (bare namesake 4 .null),
    .deleteSnapshots MemoryStorage.sampleKey,
    .storeSnapshot (bare MemoryStorage.sampleKey 3 .null),
    .storeSnapshot (bare MemoryStorage.sampleKey 5 (.bool true)),
    .storeSnapshot (bare MemoryStorage.sampleKey 5 (.bool false)),
    .storeSnapshot (bare MemoryStorage.sampleKey 4 .null)]

theorem readsBack_bare {sequence : Nat} {state : Json} (hsequence : sequence ≤ greatestLong)
    (hstate : storedValue state = state) : (bare key sequence state).ReadsBack :=
  ⟨hsequence, hstate, by cbv⟩

/-- The snapshot that came first among those with the greatest number since the deletion is there,
in both storages, and that of the namesake was left alone. -/
theorem newest_of_raced : (∀ q ∈ raced, q.OfSnapshots) ∧
    MemoryStorage.loadAfter raced MemoryStorage.sampleKey =
      .ok (some (bare MemoryStorage.sampleKey 5 (.bool true))) ∧
    MemoryStorage.loadAfter raced namesake = .ok (some (bare namesake 4 .null)) ∧
    SameSnapshots .standard raced := by
  have hnull : storedValue .null = .null := by cbv
  have htrue : storedValue (.bool true) = .bool true := by cbv
  have hfalse : storedValue (.bool false) = .bool false := by cbv
  have hraced : ∀ q ∈ raced, q.OfSnapshots := by
    unfold raced
    simp only [List.forall_mem_cons]
    exact ⟨readsBack_bare (by decide) hnull, readsBack_bare (by decide) hnull, trivial,
      readsBack_bare (by decide) hnull, readsBack_bare (by decide) htrue,
      readsBack_bare (by decide) hfalse, readsBack_bare (by decide) hnull, by simp⟩
  obtain ⟨hnewest, hsame⟩ := newest_of_requests .standard hraced
  refine ⟨hraced, (hnewest.newest _ _).2 ?_, (hnewest.newest _ _).2 ?_, hsame⟩
  · exact ⟨[bare MemoryStorage.sampleKey 3 .null],
      [bare MemoryStorage.sampleKey 5 (.bool false), bare MemoryStorage.sampleKey 4 .null], rfl,
      by decide, by decide⟩
  · exact ⟨[], [], rfl, by decide, by decide⟩

end Session

end EventLedger
