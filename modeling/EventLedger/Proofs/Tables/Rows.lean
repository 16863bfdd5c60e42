import EventLedger.Proofs.OrderedMap
import EventLedger.Tables.Storage
import Mathlib.Data.List.Basic

/-!
# Rows and the events they hold

An event whose numbers fit the columns is kept in its row as it is, and read back as it was.

## Main definitions

* `PendingEvent.FitsColumns p` — the numbers of the event fit the columns.
* `EventDraft.of key b p` — the row for an event of a batch, without its global number.

## Main results

* `Metadata.decode_encode_eq` — metadata are read back as they were.
* `EventRow.decode_of` — **a row is read back as the event that it was written for.**
* `TableStorage.mapM_draft_cases` — a batch is refused if a number does not fit.
-/

namespace EventLedger

/-- The numbers of the event fit the columns. -/
def PendingEvent.FitsColumns (p : PendingEvent) : Prop :=
  p.sequence ≤ greatestLong ∧ p.type.version ≤ greatestInteger

/-- The row for an event of a batch, without its global number. -/
def EventDraft.of (key : StreamKey) (b : Uuid) (p : PendingEvent) : EventDraft :=
  { name := key.name
    id := key.id.value
    sequence := p.sequence
    event := p.type.name
    version := p.type.version
    payload := p.payload
    metadata := p.metadata.encode
    batchId := b }

/-! ### Reading -/

/-- Metadata are read back as they were. -/
theorem Metadata.decode_encode_eq (m : Metadata) : Metadata.decode m.encode = .ok m := by
  have hfields : ∀ l : List (String × String),
      ((l.map fun e => (e.1, Json.str e.2)).mapM fun f => do
        pure (f.1, ← Json.readText f.2) : Except DecodeError (List (String × String))) = .ok l := by
    intro l
    induction l with
    | nil => rfl
    | cons e l ih =>
      rw [List.map_cons, List.mapM_cons, ih]
      rfl
  rw [encode, decode, hfields]
  exact congrArg Except.ok (OrderedMap.ofList_entries m)

theorem ofLong_natCast (n : Nat) (column : String) : ofLong n column = .ok n := by
  rw [ofLong, if_pos (Int.natCast_nonneg n), Int.toNat_natCast]

/-- **A row is read back as the event that it was written for.** -/
theorem EventRow.decode_of (key : StreamKey) (b : Uuid) (p : PendingEvent) (g : Nat) :
    (⟨EventDraft.of key b p, g⟩ : EventRow).decode = .ok (p.commit key b g) := by
  have hid : AggregateId.parse key.id.value = .ok key.id := by
    rw [AggregateId.parse, AggregateId.ofString?_value]
  simp only [decode, EventDraft.of, decodeMetadata, Metadata.decode_encode_eq, hid, ofLong_natCast]
  rfl

/-- Keys are told apart by the texts that the columns hold. -/
theorem StreamKey.eq_iff {key key' : StreamKey} :
    key = key' ↔ key.name = key'.name ∧ key.id.value = key'.id.value := by
  constructor
  · rintro rfl
    exact ⟨rfl, rfl⟩
  · rintro ⟨hname, hid⟩
    obtain ⟨name, ⟨value, _⟩⟩ := key
    obtain ⟨name', ⟨value', _⟩⟩ := key'
    subst hname
    subst hid
    rfl

theorem EventRow.inStream_of (key key' : StreamKey) (b : Uuid) (p : PendingEvent) (g : Int) :
    (⟨EventDraft.of key b p, g⟩ : EventRow).inStream key' = decide (key = key') := by
  rw [Bool.eq_iff_iff, decide_eq_true_eq]
  simp only [inStream, EventDraft.of, Bool.and_eq_true, beq_iff_eq]
  exact StreamKey.eq_iff.symm

/-! ### Writing -/

namespace TableStorage

variable {key : StreamKey} {b : Uuid} {ps : List PendingEvent}

theorem draft_of_fitsColumns {p : PendingEvent} (hp : p.FitsColumns) :
    draft key b p = .ok (.of key b p) := by
  rw [draft, if_neg (Nat.not_lt.2 hp.1), if_neg (Nat.not_lt.2 hp.2)]
  rfl

theorem exists_draft_of_not_fitsColumns (key : StreamKey) (b : Uuid) {p : PendingEvent}
    (hp : ¬p.FitsColumns) : ∃ reason, draft key b p = .error (.invalidBatch reason) := by
  rw [draft]
  split
  · exact ⟨_, rfl⟩
  · split
    · exact ⟨_, rfl⟩
    · exact absurd ⟨by omega, by omega⟩ hp

/-- **A batch is refused if a number does not fit the columns.** -/
theorem mapM_draft_cases (key : StreamKey) (b : Uuid) : ∀ ps : List PendingEvent,
    (∀ p ∈ ps, p.FitsColumns) ∧ ps.mapM (draft key b) = .ok (ps.map (.of key b)) ∨
      (∃ p ∈ ps, ¬p.FitsColumns) ∧ ∃ reason, ps.mapM (draft key b) = .error (.invalidBatch reason)
  | [] => .inl ⟨by simp, rfl⟩
  | p :: ps => by
    by_cases hp : p.FitsColumns
    · rw [List.mapM_cons, draft_of_fitsColumns hp]
      rcases mapM_draft_cases key b ps with ⟨hps, hok⟩ | ⟨⟨q, hq, hfits⟩, reason, herror⟩
      · rw [hok]
        exact .inl ⟨List.forall_mem_cons.2 ⟨hp, hps⟩, rfl⟩
      · rw [herror]
        exact .inr ⟨⟨q, List.mem_cons_of_mem p hq, hfits⟩, reason, rfl⟩
    · obtain ⟨reason, herror⟩ := exists_draft_of_not_fitsColumns key b hp
      rw [List.mapM_cons, herror]
      exact .inr ⟨⟨p, List.mem_cons_self, hp⟩, reason, rfl⟩

/-- The stored forms of a batch whose rows got global numbers that are not negative. -/
theorem committed_eq : ∀ {ps : List PendingEvent} {gs : List Nat}, gs.length = ps.length →
    committed key b ps (gs.map Nat.cast) = .ok (List.zipWith (·.commit key b ·) ps gs)
  | [], [], _ => rfl
  | p :: ps, g :: gs, h => by
    rw [List.map_cons, committed, ofLong_natCast, committed_eq (Nat.succ.inj h)]
    rfl

end TableStorage

end EventLedger
