import EventLedger.Proofs.Orders.Forms

/-!
# The payloads of order events

An event is stored without its type, which stands beside the payload; so the two have to agree.  A
payload spells at most one event, under the name of its kind alone or with a body that holds the
event's fields, and it is read under the type of that event and no other one.

## Main definitions

* `OrderEvent.Spells` — the payloads that spell an event.
* `Codec.Exact` — stored forms are read as they were written, each event under its own type alone.

## Main results

* `OrderEvent.spells_of_decode`, `OrderEvent.decode_of_spells` — **which payloads are read.**
* `Order.readEvent_eq_ok_iff` — an event is read of the payloads that spell it, under its type.
* `Codec.exact_json` — JSON forms are exact as soon as the forms of values are.
* `Order.codec_exact` — **the stored forms of orders are exact.**
-/

namespace EventLedger

/-! ### Values of fields -/

namespace Json

theorem readTexts_eq_ok {j : Json} {items : List String}
    (h : readList readText j = .ok items) : j = .arr (items.map .str) := by
  cases j with
  | arr js =>
    change js.mapM readText = .ok items at h
    induction js generalizing items with
    | nil =>
      obtain rfl := Except.ok.inj h
      rfl
    | cons j js ih =>
      rw [List.mapM_cons] at h
      obtain ⟨item, hitem, h⟩ := exists_of_bind_eq_ok h
      obtain ⟨rest, hrest, h⟩ := exists_of_bind_eq_ok h
      obtain rfl := Except.ok.inj h
      rw [readText_eq_ok_iff.1 hitem, Json.arr.inj (ih hrest)]
      rfl
  | _ => cases h

end Json

namespace OrderEvent

theorem readQuantity_eq_ok {j : Json} {quantity : UInt32} (h : readQuantity j = .ok quantity) :
    j = .nat quantity.toNat := by
  obtain ⟨n, hread, hquantity⟩ := exists_of_bind_eq_ok h
  obtain ⟨rfl, hn⟩ := Json.readWord_eq_ok_iff.1 hread
  have hsize : n < UInt32.size := Nat.lt_succ_of_le hn
  rw [← Except.ok.inj hquantity, UInt32.toNat_ofNat_of_lt' hsize]

/-- The payloads that spell an event: the name of its kind with a body that holds its fields, among
whatever other ones, or without a body where there are none. -/
inductive Spells : Json → OrderEvent → Prop
  | itemAddedV1 {fs : List (String × Json)} {item : String}
      (hitem : fs.lookup "item" = some (.str item)) :
      Spells (.obj [("ItemAddedV1", .obj fs)]) (.itemAddedV1 item)
  | bulkItemsAdded {fs : List (String × Json)} {items : List String}
      (hitems : fs.lookup "items" = some (.arr (items.map .str))) :
      Spells (.obj [("BulkItemsAdded", .obj fs)]) (.bulkItemsAdded items)
  | itemAdded {fs : List (String × Json)} {sku : String} {quantity : UInt32}
      (hsku : fs.lookup "sku" = some (.str sku))
      (hquantity : fs.lookup "quantity" = some (.nat quantity.toNat)) :
      Spells (.obj [("ItemAdded", .obj fs)]) (.itemAdded sku quantity)
  | itemRemoved {fs : List (String × Json)} {sku : String}
      (hsku : fs.lookup "sku" = some (.str sku)) :
      Spells (.obj [("ItemRemoved", .obj fs)]) (.itemRemoved sku)
  | orderSubmitted : Spells (.str "OrderSubmitted") .orderSubmitted
  | orderSubmittedAlone : Spells (.obj [("OrderSubmitted", .null)]) .orderSubmitted

variable {fields : List (String × (Json → Except DecodeError Unit))} {body : Json}
  {fs : List (String × Json)}

/-- A body that is read is an object that holds the declared fields. -/
theorem of_bodyFields (hnames : (fields.map (·.1)).Nodup) (h : bodyFields fields body = .ok fs) :
    body = .obj fs ∧ ∀ f ∈ fields, fs.lookup f.1 = some (Json.fieldOf fs f.1) := by
  cases body with
  | obj fs' =>
    obtain ⟨rfl, haccepts⟩ :=
      @RecordShape.accepts_of_readFields ⟨"struct variant", fields, false⟩ _ _ rfl hnames h
    refine ⟨rfl, ?_⟩
    intro f hf
    obtain ⟨j, hj, -⟩ := haccepts f hf
    rw [hj, Json.fieldOf_of_lookup hj]
  | _ => cases h

theorem spells_of_decodeBody {name : String} {e : OrderEvent} (h : decodeBody name body = .ok e) :
    Spells (.obj [(name, body)]) e := by
  unfold decodeBody at h
  split at h
  · obtain ⟨fs, hfs, h⟩ := exists_of_bind_eq_ok h
    obtain ⟨item, hitem, h⟩ := exists_of_bind_eq_ok h
    obtain rfl := Except.ok.inj h
    obtain ⟨rfl, hlookup⟩ := of_bodyFields (by decide) hfs
    simp only [List.forall_mem_cons, Json.readText_eq_ok_iff.1 hitem] at hlookup
    exact .itemAddedV1 hlookup.1
  · obtain ⟨fs, hfs, h⟩ := exists_of_bind_eq_ok h
    obtain ⟨items, hitems, h⟩ := exists_of_bind_eq_ok h
    obtain rfl := Except.ok.inj h
    obtain ⟨rfl, hlookup⟩ := of_bodyFields (by decide) hfs
    simp only [List.forall_mem_cons, Json.readTexts_eq_ok hitems] at hlookup
    exact .bulkItemsAdded hlookup.1
  · obtain ⟨fs, hfs, h⟩ := exists_of_bind_eq_ok h
    obtain ⟨sku, hsku, h⟩ := exists_of_bind_eq_ok h
    obtain ⟨quantity, hquantity, h⟩ := exists_of_bind_eq_ok h
    obtain rfl := Except.ok.inj h
    obtain ⟨rfl, hlookup⟩ := of_bodyFields (by decide) hfs
    simp only [List.forall_mem_cons, Json.readText_eq_ok_iff.1 hsku,
      readQuantity_eq_ok hquantity] at hlookup
    exact .itemAdded hlookup.1 hlookup.2.1
  · obtain ⟨fs, hfs, h⟩ := exists_of_bind_eq_ok h
    obtain ⟨sku, hsku, h⟩ := exists_of_bind_eq_ok h
    obtain rfl := Except.ok.inj h
    obtain ⟨rfl, hlookup⟩ := of_bodyFields (by decide) hfs
    simp only [List.forall_mem_cons, Json.readText_eq_ok_iff.1 hsku] at hlookup
    exact .itemRemoved hlookup.1
  · split at h
    · obtain rfl := Except.ok.inj h
      exact .orderSubmittedAlone
    · cases h
  · cases h

/-- **Only payloads that spell an event are read.** -/
theorem spells_of_decode {j : Json} {e : OrderEvent} (h : decode j = .ok e) : Spells j e := by
  unfold decode at h
  split at h
  · unfold decodeName at h
    split at h
    next hname =>
      obtain rfl := Except.ok.inj h
      rw [hname]
      exact .orderSubmitted
    next => split at h <;> cases h
  · exact spells_of_decodeBody h
  · cases h
  · cases h

/-- A body of distinct names that holds the declared fields is read. -/
theorem bodyFields_obj (hfs : (fs.map (·.1)).Nodup)
    (h : ∀ f ∈ fields, ∃ j, fs.lookup f.1 = some j ∧ f.2 j = .ok ()) :
    bodyFields fields (.obj fs) = .ok fs :=
  @RecordShape.Accepts.readFields ⟨"struct variant", fields, false⟩ fs hfs h

/-- **Every payload that spells an event is read.** -/
theorem decode_of_spells {j : Json} {e : OrderEvent}
    (hdistinct : ∀ name fs, j = .obj [(name, .obj fs)] → (fs.map (·.1)).Nodup) (h : Spells j e) :
    decode j = .ok e := by
  cases h with
  | @itemAddedV1 fs item hitem =>
    have hfs : bodyFields [("item", Json.check Json.readText)] (.obj fs) = .ok fs :=
      bodyFields_obj (hdistinct _ fs rfl) (by simp [hitem, Json.check_eq_ok, Json.readText])
    change decodeBody "ItemAddedV1" (.obj fs) = _
    rw [decodeBody, hfs]
    change (do pure (itemAddedV1 (← (Json.fieldOf fs "item").readText))) = _
    rw [Json.fieldOf_of_lookup hitem]
    rfl
  | @bulkItemsAdded fs items hitems =>
    have hread : Json.readList Json.readText (.arr (items.map .str)) = .ok items := by
      simpa using Json.readList_map (f := Json.str) (g := id) (fun _ => rfl) items
    have hfs : bodyFields [("items", Json.check (Json.readList Json.readText))] (.obj fs) =
        .ok fs :=
      bodyFields_obj (hdistinct _ fs rfl) (by simp [hitems, Json.check_eq_ok hread])
    change decodeBody "BulkItemsAdded" (.obj fs) = _
    rw [decodeBody, hfs]
    change (do pure (bulkItemsAdded (← (Json.fieldOf fs "items").readList Json.readText))) = _
    rw [Json.fieldOf_of_lookup hitems, hread]
    rfl
  | @itemAdded fs sku quantity hsku hquantity =>
    have hread := readQuantity_nat quantity
    have hfs : bodyFields [("sku", Json.check Json.readText), ("quantity", Json.check readQuantity)]
        (.obj fs) = .ok fs :=
      bodyFields_obj (hdistinct _ fs rfl)
        (by simp [hsku, hquantity, Json.check_eq_ok, Json.readText, Json.check_eq_ok hread])
    change decodeBody "ItemAdded" (.obj fs) = _
    rw [decodeBody, hfs]
    change (do pure (itemAdded (← (Json.fieldOf fs "sku").readText)
      (← readQuantity (Json.fieldOf fs "quantity")))) = _
    rw [Json.fieldOf_of_lookup hsku, Json.fieldOf_of_lookup hquantity, hread]
    rfl
  | @itemRemoved fs sku hsku =>
    have hfs : bodyFields [("sku", Json.check Json.readText)] (.obj fs) = .ok fs :=
      bodyFields_obj (hdistinct _ fs rfl) (by simp [hsku, Json.check_eq_ok, Json.readText])
    change decodeBody "ItemRemoved" (.obj fs) = _
    rw [decodeBody, hfs]
    change (do pure (itemRemoved (← (Json.fieldOf fs "sku").readText))) = _
    rw [Json.fieldOf_of_lookup hsku]
    rfl
  | orderSubmitted => rfl
  | orderSubmittedAlone => rfl

end OrderEvent

/-! ### Stored forms -/

namespace Codec

variable {σ ε : Type}

/-- Stored forms are read as they were written, each event under its own type alone. -/
structure Exact (codec : Codec σ ε) (typeOf : ε → EventType) : Prop where
  /-- What was written of an event is read back under its type, and under no other one. -/
  written : ∀ e, ∃ p, codec.writeEvent e = .ok p ∧ ∀ t, codec.readEvent p t =
    if typeOf e = t then .ok e
    else .error s!"payload decodes to {(typeOf e).text}, but was stored as {t.text}"
  /-- Whatever the payload, the event that is read has the type that it was stored as. -/
  typed : ∀ p t e, codec.readEvent p t = .ok e → typeOf e = t
  /-- Whatever the payload, the event that is read can be written again and read again. -/
  rewritten : ∀ p t e, codec.readEvent p t = .ok e →
    ∃ p', codec.writeEvent e = .ok p' ∧ codec.readEvent p' t = .ok e
  /-- No payload is read as two events or under two types. -/
  unique : ∀ p t t' e e', codec.readEvent p t = .ok e → codec.readEvent p t' = .ok e' →
    e = e' ∧ t = t'
  /-- What was written of a state is read back. -/
  states : ∀ s, ∃ j, codec.writeState s = .ok j ∧ codec.readState j = .ok s

variable {typeOf : ε → EventType} {encodeEvent : ε → Json}
  {decodeEvent : Json → Except DecodeError ε} {encodeState : σ → Json}
  {decodeState : Json → Except DecodeError σ} {p : Json} {t : EventType} {e : ε}

theorem checkType_eq_ok_iff {e' : ε} :
    checkType typeOf t e' = .ok e ↔ e' = e ∧ typeOf e = t := by
  rw [checkType]
  by_cases ht : typeOf e' = t
  · rw [if_pos ht, Except.ok.injEq, iff_self_and]
    rintro rfl
    exact ht
  · rw [if_neg ht]
    constructor
    · intro h
      cases h
    · rintro ⟨rfl, ht'⟩
      exact absurd ht' ht

/-- An event is read of a payload that holds it, under its type. -/
theorem readEvent_json_eq_ok_iff :
    (json typeOf encodeEvent decodeEvent encodeState decodeState).readEvent p t = .ok e ↔
      decodeEvent p = .ok e ∧ typeOf e = t := by
  simp only [json]
  cases decodeEvent p with
  | error cause => simp
  | ok e' => rw [Except.ok.injEq, checkType_eq_ok_iff]

/-- **JSON forms are exact as soon as the forms of values are.** -/
theorem exact_json (hevents : ∀ e, decodeEvent (encodeEvent e) = .ok e)
    (hstates : ∀ s, decodeState (encodeState s) = .ok s) :
    (json typeOf encodeEvent decodeEvent encodeState decodeState).Exact typeOf where
  written e := by
    refine ⟨encodeEvent e, rfl, ?_⟩
    intro t
    simp only [json, hevents, checkType]
  typed p t e h := (readEvent_json_eq_ok_iff.1 h).2
  rewritten p t e h := by
    obtain ⟨-, ht⟩ := readEvent_json_eq_ok_iff.1 h
    exact ⟨encodeEvent e, rfl, readEvent_json_eq_ok_iff.2 ⟨hevents e, ht⟩⟩
  unique p t t' e e' h h' := by
    obtain ⟨hdecode, ht⟩ := readEvent_json_eq_ok_iff.1 h
    obtain ⟨hdecode', ht'⟩ := readEvent_json_eq_ok_iff.1 h'
    rw [hdecode] at hdecode'
    obtain rfl := Except.ok.inj hdecode'
    exact ⟨rfl, ht.symm.trans ht'⟩
  states s := by
    refine ⟨encodeState s, rfl, ?_⟩
    simp only [json, hstates]

end Codec

/-- An event is read of the payloads that spell it, under its type. -/
theorem Order.readEvent_eq_ok_iff {p : Json} {t : EventType} {e : OrderEvent}
    (hdistinct : ∀ name fs, p = .obj [(name, .obj fs)] → (fs.map (·.1)).Nodup) :
    Order.codec.readEvent p t = .ok e ↔ OrderEvent.Spells p e ∧ e.type = t := by
  rw [Order.codec, Codec.readEvent_json_eq_ok_iff]
  exact and_congr_left fun _ => ⟨OrderEvent.spells_of_decode, OrderEvent.decode_of_spells hdistinct⟩

/-- **The stored forms of orders are exact.** -/
theorem Order.codec_exact : Order.codec.Exact OrderEvent.type :=
  Codec.exact_json OrderEvent.decode_encode Order.decode_encode

end EventLedger
