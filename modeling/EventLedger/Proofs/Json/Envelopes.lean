import EventLedger.Event
import EventLedger.Proofs.Json.Records
import EventLedger.Proofs.Tables.Rows
import EventLedger.Proofs.Uuid
import EventLedger.Snapshot

/-!
# Stored events and snapshots as JSON

Stored events and snapshots travel as records.  Whatever names, payloads, states and metadata they
hold, they are read as they were written, as long as their numbers have the width of their fields.

## Main definitions

* `CommittedEvent.Fits`, `Snapshot.Fits` — the numbers have the width of their fields.
* `CommittedEvent.assemble`, `Snapshot.assemble` — the record made of its fields.

## Main results

* `CommittedEvent.describes`, `Snapshot.describes` — what is written, checked and read belong
  together.
* `envelopes_faithful` — **stored events and snapshots are read as they were written.**
-/

namespace EventLedger

/-! ### Values of fields -/

namespace Json

theorem readAggregateId_value (i : AggregateId) : readAggregateId (.str i.value) = .ok i := by
  simp only [readAggregateId, readText, bind, Except.bind, AggregateId.ofString?_value]

theorem readUuid_text (u : Uuid) : readUuid (.str u.text) = .ok u := by
  simp only [readUuid, Uuid.parse_text]

end Json

theorem Metadata.encode_injective : Function.Injective encode := by
  intro m m' h
  have hdecode := decode_encode_eq m
  rw [h, decode_encode_eq] at hdecode
  exact (Except.ok.inj hdecode).symm

/-! ### Stored events -/

namespace CommittedEvent

/-- The numbers of a stored event have the width of their fields. -/
structure Fits (e : CommittedEvent) : Prop where
  sequence : e.sequence ≤ Json.word64.greatest
  globalSequence : e.globalSequence ≤ Json.word64.greatest
  version : e.type.version ≤ Json.word32.greatest

/-- The stored event made of its fields. -/
def assemble (get : String → Json) : Except DecodeError CommittedEvent := do
  let id ← (get "aggregate_id").readAggregateId
  let name ← (get "aggregate_name").readText
  let sequence ← (get "aggregate_sequence_number").readWord Json.word64
  let globalSequence ← (get "global_sequence_number").readWord Json.word64
  let eventName ← (get "event_name").readText
  let eventVersion ← (get "event_version").readWord Json.word32
  let metadata ← Metadata.decode (get "metadata")
  let batchId ← (get "batch_id").readUuid
  pure
    { key := ⟨name, id⟩
      sequence := sequence
      globalSequence := globalSequence
      type := ⟨eventName, eventVersion⟩
      payload := get "payload"
      metadata := metadata
      batchId := batchId }

variable {get : String → Json} {e e' : CommittedEvent}

theorem assemble_eq_ok_iff : assemble get = .ok e ↔
    (get "aggregate_id").readAggregateId = .ok e.key.id ∧
    (get "aggregate_name").readText = .ok e.key.name ∧
    (get "aggregate_sequence_number").readWord Json.word64 = .ok e.sequence ∧
    (get "global_sequence_number").readWord Json.word64 = .ok e.globalSequence ∧
    (get "event_name").readText = .ok e.type.name ∧
    (get "event_version").readWord Json.word32 = .ok e.type.version ∧
    get "payload" = e.payload ∧
    Metadata.decode (get "metadata") = .ok e.metadata ∧
    (get "batch_id").readUuid = .ok e.batchId := by
  constructor
  · intro h
    obtain ⟨id, hid, h⟩ := exists_of_bind_eq_ok h
    obtain ⟨name, hname, h⟩ := exists_of_bind_eq_ok h
    obtain ⟨sequence, hsequence, h⟩ := exists_of_bind_eq_ok h
    obtain ⟨globalSequence, hglobal, h⟩ := exists_of_bind_eq_ok h
    obtain ⟨eventName, heventName, h⟩ := exists_of_bind_eq_ok h
    obtain ⟨eventVersion, hversion, h⟩ := exists_of_bind_eq_ok h
    obtain ⟨metadata, hmetadata, h⟩ := exists_of_bind_eq_ok h
    obtain ⟨batchId, hbatch, h⟩ := exists_of_bind_eq_ok h
    obtain rfl := Except.ok.inj h
    exact ⟨hid, hname, hsequence, hglobal, heventName, hversion, rfl, hmetadata, hbatch⟩
  · rintro ⟨hid, hname, hsequence, hglobal, heventName, hversion, hpayload, hmetadata, hbatch⟩
    simp only [assemble, hid, hname, hsequence, hglobal, heventName, hversion, hpayload, hmetadata,
      hbatch]
    rfl

theorem fields_injective : Function.Injective fields := by
  rintro ⟨key, sequence, globalSequence, ⟨eventName, version⟩, payload, metadata, batchId⟩ e' h
  simp only [fields, List.cons.injEq, Prod.mk.injEq, true_and, and_true, Json.str.injEq, Json.nat,
    Json.int.injEq, Int.natCast_inj] at h
  obtain ⟨hid, hname, rfl, rfl, rfl, rfl, rfl, hmetadata, hbatch⟩ := h
  obtain rfl := StreamKey.eq_iff.2 ⟨hname, hid⟩
  obtain rfl := Metadata.encode_injective hmetadata
  obtain rfl := Uuid.text_injective hbatch
  rfl

theorem describes : shape.Describes fields assemble Fits where
  required := rfl
  distinct := by decide
  named e := rfl
  assemble_congr get get' h := by
    have hnames : ∀ n ∈ ["aggregate_id", "aggregate_name", "aggregate_sequence_number",
        "global_sequence_number", "event_name", "event_version", "payload", "metadata",
        "batch_id"], get n = get' n := h
    simp only [List.forall_mem_cons] at hnames
    simp only [assemble, hnames]
  accepted e h := by
    have hid := Json.check_eq_ok (Json.readAggregateId_value e.key.id)
    have hsequence := Json.check_eq_ok (Json.readWord_nat h.sequence)
    have hglobal := Json.check_eq_ok (Json.readWord_nat h.globalSequence)
    have hversion := Json.check_eq_ok (Json.readWord_nat h.version)
    have hmetadata := Json.check_eq_ok (Metadata.decode_encode_eq e.metadata)
    have hbatch := Json.check_eq_ok (Json.readUuid_text e.batchId)
    simp only [RecordShape.Accepts, shape, List.forall_mem_cons]
    exact ⟨⟨_, rfl, hid⟩, ⟨_, rfl, rfl⟩, ⟨_, rfl, hsequence⟩, ⟨_, rfl, hglobal⟩, ⟨_, rfl, rfl⟩,
      ⟨_, rfl, hversion⟩, ⟨_, rfl, rfl⟩, ⟨_, rfl, hmetadata⟩, ⟨_, rfl, hbatch⟩, by simp⟩
  assembled e h :=
    assemble_eq_ok_iff.2 ⟨Json.readAggregateId_value e.key.id, rfl, Json.readWord_nat h.sequence,
      Json.readWord_nat h.globalSequence, rfl, Json.readWord_nat h.version, rfl,
      Metadata.decode_encode_eq e.metadata, Json.readUuid_text e.batchId⟩
  fits get e h := by
    obtain ⟨-, -, hsequence, hglobal, -, hversion, -⟩ := assemble_eq_ok_iff.1 h
    exact ⟨(Json.readWord_eq_ok_iff.1 hsequence).2, (Json.readWord_eq_ok_iff.1 hglobal).2,
      (Json.readWord_eq_ok_iff.1 hversion).2⟩
  injective := fields_injective

end CommittedEvent

/-! ### Snapshots -/

namespace Snapshot

/-- The number of a snapshot has the width of its field. -/
def Fits (s : Snapshot) : Prop := s.sequence ≤ Json.word64.greatest

/-- The snapshot made of its fields. -/
def assemble (get : String → Json) : Except DecodeError Snapshot := do
  let id ← (get "aggregate_id").readAggregateId
  let name ← (get "aggregate_name").readText
  let sequence ← (get "aggregate_sequence_number").readWord Json.word64
  let metadata ← Metadata.decode (get "metadata")
  pure ⟨⟨name, id⟩, sequence, get "state", metadata⟩

theorem assemble_eq_ok_iff {get : String → Json} {s : Snapshot} : assemble get = .ok s ↔
    (get "aggregate_id").readAggregateId = .ok s.key.id ∧
    (get "aggregate_name").readText = .ok s.key.name ∧
    (get "aggregate_sequence_number").readWord Json.word64 = .ok s.sequence ∧
    get "state" = s.state ∧
    Metadata.decode (get "metadata") = .ok s.metadata := by
  constructor
  · intro h
    obtain ⟨id, hid, h⟩ := exists_of_bind_eq_ok h
    obtain ⟨name, hname, h⟩ := exists_of_bind_eq_ok h
    obtain ⟨sequence, hsequence, h⟩ := exists_of_bind_eq_ok h
    obtain ⟨metadata, hmetadata, h⟩ := exists_of_bind_eq_ok h
    obtain rfl := Except.ok.inj h
    exact ⟨hid, hname, hsequence, rfl, hmetadata⟩
  · rintro ⟨hid, hname, hsequence, hstate, hmetadata⟩
    simp only [assemble, hid, hname, hsequence, hstate, hmetadata]
    rfl

theorem fields_injective : Function.Injective fields := by
  rintro ⟨key, sequence, state, metadata⟩ s' h
  simp only [fields, List.cons.injEq, Prod.mk.injEq, true_and, and_true, Json.str.injEq, Json.nat,
    Json.int.injEq, Int.natCast_inj] at h
  obtain ⟨hid, hname, rfl, rfl, hmetadata⟩ := h
  obtain rfl := StreamKey.eq_iff.2 ⟨hname, hid⟩
  obtain rfl := Metadata.encode_injective hmetadata
  rfl

theorem describes : shape.Describes fields assemble Fits where
  required := rfl
  distinct := by decide
  named s := rfl
  assemble_congr get get' h := by
    have hnames : ∀ n ∈ ["aggregate_id", "aggregate_name", "aggregate_sequence_number", "state",
        "metadata"], get n = get' n := h
    simp only [List.forall_mem_cons] at hnames
    simp only [assemble, hnames]
  accepted s h := by
    have hid := Json.check_eq_ok (Json.readAggregateId_value s.key.id)
    have hsequence := Json.check_eq_ok (Json.readWord_nat h)
    have hmetadata := Json.check_eq_ok (Metadata.decode_encode_eq s.metadata)
    simp only [RecordShape.Accepts, shape, List.forall_mem_cons]
    exact ⟨⟨_, rfl, hid⟩, ⟨_, rfl, rfl⟩, ⟨_, rfl, hsequence⟩, ⟨_, rfl, rfl⟩, ⟨_, rfl, hmetadata⟩,
      by simp⟩
  assembled s h :=
    assemble_eq_ok_iff.2 ⟨Json.readAggregateId_value s.key.id, rfl, Json.readWord_nat h, rfl,
      Metadata.decode_encode_eq s.metadata⟩
  fits get s h := (Json.readWord_eq_ok_iff.1 (assemble_eq_ok_iff.1 h).2.2.1).2
  injective := fields_injective

end Snapshot

/-! ### Both -/

/-- **Stored events and snapshots are read as they were written**, from an object in whatever order
and among whatever other fields, or from an array in declared order; what was read of any other
spelling is read again of what is written for it, and different ones are written differently. -/
theorem envelopes_faithful :
    Json.Faithful CommittedEvent.shape.names CommittedEvent.encode CommittedEvent.decode
        CommittedEvent.Fits ∧
      Json.Faithful Snapshot.shape.names Snapshot.encode Snapshot.decode Snapshot.Fits :=
  ⟨CommittedEvent.describes.faithful, Snapshot.describes.faithful⟩

end EventLedger
