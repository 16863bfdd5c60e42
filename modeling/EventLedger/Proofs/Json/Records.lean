import EventLedger.Json.Decode
import EventLedger.Proofs.OrderedMap

/-!
# Records are read as they were written

A record is written as an object of its fields and read from an object or from an array.  All that
counts of an object are the values of the declared fields, each of which has to be there: another
order, another field and another container change nothing.  So a record that is described once — its
shape, the fields that are written, and what is made of the fields that were read — is read as it was
written as soon as single values are.

## Main definitions

* `RecordShape.Accepts` — the declared fields are there and pass their checks.
* `RecordShape.readAs` — a value made of the fields that were read.
* `RecordShape.Describes` — what is written, what is checked and what is read belong together.
* `Json.Faithful` — a record is read as it was written, whatever holds its fields.

## Main results

* `Json.exists_object` — the fields of an object are those that it was made of.
* `Json.readWord_eq_ok_iff` — a number is read if it has the width of the field.
* `RecordShape.readFields_eq_ok_iff`, `RecordShape.readItems_eq_ok_iff` — **what a shape reads.**
* `RecordShape.Describes.faithful` — **a record that is described is read as it was written.**
-/

namespace EventLedger

theorem exists_of_bind_eq_ok {ε α β : Type} {x : Except ε α} {f : α → Except ε β} {b : β}
    (h : x >>= f = .ok b) : ∃ a, x = .ok a ∧ f a = .ok b := by
  cases x with
  | error e => cases h
  | ok a => exact ⟨a, rfl, h⟩

/-! ### Objects -/

namespace Json

theorem mem_of_lookup_eq_some {β : Type} {n : String} {v : β} : ∀ {l : List (String × β)},
    l.lookup n = some v → (n, v) ∈ l
  | (m, w) :: l, h => by
    rw [List.lookup_cons] at h
    split at h
    next heq =>
      obtain rfl := Option.some.inj h
      obtain rfl : n = m := by simpa using heq
      exact List.mem_cons_self
    next => exact List.mem_cons_of_mem _ (mem_of_lookup_eq_some h)

/-- Among fields of distinct names, the field of a name is the one in the list. -/
theorem lookup_eq_some_iff {β : Type} {n : String} {v : β} : ∀ {l : List (String × β)},
    (l.map (·.1)).Nodup → (l.lookup n = some v ↔ (n, v) ∈ l)
  | [], _ => by simp
  | (m, w) :: l, h => by
    obtain ⟨hm, hl⟩ := List.nodup_cons.1 h
    constructor
    · exact mem_of_lookup_eq_some
    · intro hmem
      rw [List.lookup_cons]
      rcases List.mem_cons.1 hmem with heq | htail
      · obtain ⟨rfl, rfl⟩ := Prod.mk.inj heq
        simp
      · have hne : n ≠ m := by
          rintro rfl
          exact hm (List.mem_map.2 ⟨_, htail, rfl⟩)
        rw [beq_false_of_ne hne]
        exact (lookup_eq_some_iff hl).2 htail

/-- The entries of an ordered map have distinct keys. -/
theorem nodup_names (m : OrderedMap String Json) : (m.entries.map (·.1)).Nodup := by
  refine List.pairwise_map.2 (m.ascending.imp ?_)
  intro a b hab heq
  simp [heq] at hab

theorem object_eq (fields : List (String × Json)) : object fields =
    .obj (fields.foldl (fun m f => m.insert f.1 f.2) OrderedMap.empty).entries := by
  have hfold : ∀ (fields : List (String × Json)) (m : OrderedMap String Json),
      (fields.foldl (fun m f => m.insert f.1 f.2) m).entries =
        fields.foldl (fun fs f => OrderedMap.insertEntry f.1 f.2 fs) m.entries := by
    intro fields
    induction fields with
    | nil => intro m; rfl
    | cons f fields ih => intro m; exact ih (m.insert f.1 f.2)
  rw [hfold]
  rfl

/-- **The fields of an object are those that it was made of.** -/
theorem exists_object {fields : List (String × Json)} (h : (fields.map (·.1)).Nodup) :
    ∃ fs, object fields = .obj fs ∧ (fs.map (·.1)).Nodup ∧
      ∀ n, fs.lookup n = fields.lookup n := by
  refine ⟨_, object_eq fields, nodup_names _, ?_⟩
  intro n
  ext j
  rw [lookup_eq_some_iff (nodup_names _), lookup_eq_some_iff h, OrderedMap.mem_entries_iff]
  by_cases hn : ∃ f ∈ fields, f.1 = n
  · obtain ⟨f, hf, rfl⟩ := hn
    rw [OrderedMap.get?_foldl_insert_of_mem hf h]
    constructor
    · rintro heq
      rwa [← Option.some.inj heq]
    · intro hj
      rw [← (lookup_eq_some_iff h).2 hj, (lookup_eq_some_iff h).2 hf]
  · rw [OrderedMap.get?_foldl_insert_of_forall_ne fun f hf heq => hn ⟨f, hf, heq⟩]
    constructor
    · intro heq
      cases heq
    · intro hj
      exact absurd ⟨_, hj, rfl⟩ hn

theorem fieldOf_of_lookup {fs : List (String × Json)} {n : String} {j : Json}
    (h : fs.lookup n = some j) : fieldOf fs n = j := by
  rw [fieldOf, h, Option.getD_some]

theorem eq_map_fieldOf {fields : List (String × Json)} (h : (fields.map (·.1)).Nodup) :
    fields = (fields.map (·.1)).map fun n => (n, fieldOf fields n) := by
  rw [List.map_map]
  conv_lhs => rw [← List.map_id fields]
  refine List.map_congr_left ?_
  intro f hf
  exact Prod.ext rfl (fieldOf_of_lookup ((lookup_eq_some_iff h).2 hf)).symm

/-- An object tells which fields it was made of, if their names are known. -/
theorem fields_eq_of_object_eq {fields fields' : List (String × Json)}
    (h : (fields.map (·.1)).Nodup) (hnames : fields.map (·.1) = fields'.map (·.1))
    (heq : object fields = object fields') : fields = fields' := by
  have h' : (fields'.map (·.1)).Nodup := hnames ▸ h
  obtain ⟨fs, hobject, -, hlookup⟩ := exists_object h
  obtain ⟨fs', hobject', -, hlookup'⟩ := exists_object h'
  obtain rfl : fs = fs' := by
    rw [hobject, hobject'] at heq
    exact Json.obj.inj heq
  have hfieldOf : ∀ n, fieldOf fields n = fieldOf fields' n := by
    intro n
    rw [fieldOf, fieldOf, ← hlookup, ← hlookup']
  rw [eq_map_fieldOf h, eq_map_fieldOf h', ← hnames]
  simp only [hfieldOf]

theorem check_eq_ok {α : Type} {read : Json → Except DecodeError α} {j : Json} {a : α}
    (h : read j = .ok a) : check read j = .ok () := by
  rw [check, h]
  rfl

theorem readWord_eq_ok_iff {k : WordKind} {j : Json} {n : Nat} :
    readWord k j = .ok n ↔ j = .nat n ∧ n ≤ k.greatest := by
  unfold readWord nat
  split
  next m =>
    split
    next hm => simp; omega
    next hm => simp; omega
  next hj => simp; rintro rfl; exact absurd rfl (hj n)

theorem readWord_nat {k : WordKind} {n : Nat} (h : n ≤ k.greatest) :
    readWord k (.nat n) = .ok n :=
  readWord_eq_ok_iff.2 ⟨rfl, h⟩

theorem readText_eq_ok_iff {j : Json} {s : String} : readText j = .ok s ↔ j = .str s := by
  cases j <;> simp [readText]

end Json

/-! ### Shapes -/

namespace RecordShape

variable {shape : RecordShape} {fs fs' : List (String × Json)}

/-- The names of the declared fields. -/
def names (shape : RecordShape) : List String := shape.fields.map (·.1)

/-- The declared fields are there and pass their checks. -/
def Accepts (shape : RecordShape) (fs : List (String × Json)) : Prop :=
  ∀ f ∈ shape.fields, ∃ j, fs.lookup f.1 = some j ∧ f.2 j = .ok ()

theorem checkFields_eq_ok_iff : shape.checkFields fs = .ok () ↔
    ∀ f ∈ fs, ∀ check, shape.fields.lookup f.1 = some check → check f.2 = .ok () := by
  induction fs with
  | nil => simp [checkFields]
  | cons f fs ih =>
    rw [List.forall_mem_cons, ← ih, checkFields]
    cases shape.fields.lookup f.1 with
    | none => simp
    | some check => cases hcheck : check f.2 <;> simp [hcheck, bind, Except.bind]

theorem missing_eq_nil_iff : shape.missing fs = [] ↔
    ∀ f ∈ shape.fields, ∃ j, fs.lookup f.1 = some j := by
  simp only [missing, List.filter_eq_nil_iff, List.forall_mem_map, Option.isNone_iff_eq_none,
    Option.ne_none_iff_exists']

theorem readFields_eq_ok_iff : shape.readFields fs = .ok fs' ↔
    fs' = fs ∧ shape.checkFields fs = .ok () ∧ (shape.missing fs = [] ∨ shape.optional = true) := by
  have hok : (.ok fs : Except DecodeError (List (String × Json))) = .ok fs' ↔ fs' = fs := by
    rw [Except.ok.injEq, eq_comm]
  unfold readFields
  cases shape.checkFields fs with
  | error e => simp [bind, Except.bind]
  | ok u =>
    cases shape.missing fs with
    | nil => simp [bind, Except.bind, pure, Except.pure, hok]
    | cons n ns =>
      cases shape.optional <;>
        simp [bind, Except.bind, pure, Except.pure, throw, throwThe, MonadExceptOf.throw, hok]

/-- A record whose fields are all there and all pass their checks is read. -/
theorem readFields_eq_ok
    (h : ∀ f ∈ fs, ∀ check, shape.fields.lookup f.1 = some check → check f.2 = .ok ())
    (hmissing : shape.missing fs = []) : shape.readFields fs = .ok fs :=
  readFields_eq_ok_iff.2 ⟨rfl, checkFields_eq_ok_iff.2 h, .inl hmissing⟩

/-- An object that is read holds the declared fields, and it is read as it is. -/
theorem accepts_of_readFields (hrequired : shape.optional = false) (hnames : shape.names.Nodup)
    (h : shape.readFields fs = .ok fs') : fs' = fs ∧ shape.Accepts fs := by
  obtain ⟨rfl, hchecked, hmissing⟩ := readFields_eq_ok_iff.1 h
  rw [hrequired, or_iff_left Bool.false_ne_true] at hmissing
  refine ⟨rfl, fun f hf => ?_⟩
  obtain ⟨j, hj⟩ := missing_eq_nil_iff.1 hmissing f hf
  have hcheck : shape.fields.lookup f.1 = some f.2 := (Json.lookup_eq_some_iff hnames).2 hf
  exact ⟨j, hj, checkFields_eq_ok_iff.1 hchecked (f.1, j) (Json.mem_of_lookup_eq_some hj) f.2 hcheck⟩

/-- An object of distinct names that holds the declared fields is read. -/
theorem Accepts.readFields (hfs : (fs.map (·.1)).Nodup) (h : shape.Accepts fs) :
    shape.readFields fs = .ok fs := by
  refine readFields_eq_ok ?_ ?_
  · intro f hf check hcheck
    obtain ⟨j, hj, hchecked⟩ := h _ (Json.mem_of_lookup_eq_some hcheck)
    rw [(Json.lookup_eq_some_iff hfs).2 hf] at hj
    rwa [Option.some.inj hj]
  · exact missing_eq_nil_iff.2 fun f hf => (h f hf).imp fun _ hj => hj.1

theorem pairItems_eq_ok_iff {tooMany : Nat → DecodeError} {total : Nat}
    (hrequired : shape.optional = false) :
    ∀ {found : Nat} {fields : List (String × (Json → Except DecodeError Unit))}
      {items : List Json} {fs : List (String × Json)},
      shape.pairItems tooMany total found fields items = .ok fs ↔
        List.Forall₂ (fun f j => f.2 j = .ok ()) fields items ∧
          fs = (fields.map (·.1)).zip items
  | _, [], [], fs => by simp [pairItems, eq_comm]
  | _, [], _ :: _, fs => by simp [pairItems]
  | _, _ :: _, [], fs => by simp [pairItems, hrequired]
  | found, f :: fields, j :: items, fs => by
    rw [List.forall₂_cons, List.map_cons, List.zip_cons_cons, pairItems]
    have ih : ∀ rest, shape.pairItems tooMany total (found + 1) fields items = .ok rest ↔
        List.Forall₂ (fun f j => f.2 j = .ok ()) fields items ∧
          rest = (fields.map (·.1)).zip items :=
      fun _ => pairItems_eq_ok_iff hrequired
    by_cases hall : List.Forall₂ (fun f j => f.2 j = .ok ()) fields items
    · rw [(ih _).2 ⟨hall, rfl⟩]
      cases f.2 j <;> simp [hall, bind, Except.bind, pure, Except.pure, eq_comm (a := fs)]
    · cases hrest : shape.pairItems tooMany total (found + 1) fields items with
      | error e => cases f.2 j <;> simp [hall, bind, Except.bind]
      | ok rest => exact absurd ((ih rest).1 hrest).1 hall

/-- The items of an array that has one for each declared field, under the names of these fields. -/
theorem nodup_zip_names {items : List Json} (hnames : shape.names.Nodup)
    (hlength : items.length = shape.names.length) :
    ((shape.names.zip items).map (·.1)).Nodup := by
  have hzip : (shape.names.zip items).map (·.1) = shape.names :=
    List.map_fst_zip (Nat.le_of_eq hlength.symm)
  rwa [hzip]

/-- **An array is read if it holds the declared fields in their order.** -/
theorem readItems_eq_ok_iff {items : List Json} (hrequired : shape.optional = false)
    (hnames : shape.names.Nodup) : shape.readItems items = .ok fs ↔
      items.length = shape.names.length ∧ fs = shape.names.zip items ∧
        shape.Accepts (shape.names.zip items) := by
  have hzip : shape.names.zip items = (shape.fields.zip items).map (Prod.map (·.1) id) :=
    List.zip_map_left
  have hlengths : shape.names.length = shape.fields.length := List.length_map _
  rw [readItems, pairItems_eq_ok_iff hrequired, List.forall₂_iff_zip]
  constructor
  · rintro ⟨⟨hlength, hall⟩, rfl⟩
    refine ⟨by omega, rfl, ?_⟩
    intro f hf
    obtain ⟨i, hi, rfl⟩ := List.getElem_of_mem hf
    have hmem : (shape.fields[i], items[i]) ∈ shape.fields.zip items := by
      rw [← List.getElem_zip (h := by simp; omega)]
      exact List.getElem_mem _
    refine ⟨items[i], ?_, hall hmem⟩
    rw [Json.lookup_eq_some_iff (nodup_zip_names hnames (by omega)), hzip]
    exact List.mem_map_of_mem hmem
  · rintro ⟨hlength, rfl, haccepts⟩
    refine ⟨⟨by omega, ?_⟩, rfl⟩
    intro f j hfj
    obtain ⟨j', hj', hcheck⟩ := haccepts f (List.of_mem_zip hfj).1
    have hj : (shape.names.zip items).lookup f.1 = some j := by
      rw [Json.lookup_eq_some_iff (nodup_zip_names hnames hlength), hzip]
      exact List.mem_map_of_mem hfj
    rw [hj] at hj'
    rwa [Option.some.inj hj']

/-- Only the declared fields count. -/
theorem Accepts.congr (h : ∀ n ∈ shape.names, fs.lookup n = fs'.lookup n)
    (haccepts : shape.Accepts fs) : shape.Accepts fs' := by
  intro f hf
  obtain ⟨j, hj, hcheck⟩ := haccepts f hf
  exact ⟨j, h f.1 (List.mem_map_of_mem hf) ▸ hj, hcheck⟩

end RecordShape

/-! ### Writing and reading -/

/-- A record is read as it was written, whatever holds its fields; `names` are the declared ones,
and `Fits` says that the numbers are ones that are read. -/
structure Json.Faithful {α : Type} (names : List String) (write : α → Json)
    (read : Json → Except DecodeError α) (Fits : α → Prop) : Prop where
  /-- What was written is read back if, and only if, it fits. -/
  read_back : ∀ a, read (write a) = .ok a ↔ Fits a
  /-- Different values are written differently. -/
  injective : Function.Injective write
  /-- Objects and arrays are read, and nothing else. -/
  containers : ∀ j a, read j = .ok a → (∃ fs, j = .obj fs) ∨ ∃ items, j = .arr items
  /-- Each declared field has to be there, be it `null`. -/
  present : ∀ fs a, read (.obj fs) = .ok a → ∀ n ∈ names, ∃ j, fs.lookup n = some j
  /-- Declared fields count, in whatever order and among whatever other fields. -/
  any_order : ∀ fs fs' a, (fs'.map (·.1)).Nodup → (∀ n ∈ names, fs.lookup n = fs'.lookup n) →
    read (.obj fs) = .ok a → read (.obj fs') = .ok a
  /-- An array is read as the object of its items under the declared names, one for each. -/
  in_order : ∀ items a, read (.arr items) = .ok a ↔
    items.length = names.length ∧ read (.obj (names.zip items)) = .ok a
  /-- What is read of any value is read again of what is written for it. -/
  rewritten : ∀ j a, read j = .ok a → read (write a) = .ok a
  /-- Rewriting a value that was rewritten changes nothing. -/
  idempotent : ∀ j j', (read j).map write = .ok j' → (read j').map write = .ok j'

namespace RecordShape

variable {α : Type}

/-- A value made of the fields that were read. -/
def readAs (shape : RecordShape) (assemble : (String → Json) → Except DecodeError α) (j : Json) :
    Except DecodeError α := do
  let fs ← shape.read j
  assemble (Json.fieldOf fs)

theorem readAs_obj {shape : RecordShape} {assemble : (String → Json) → Except DecodeError α}
    {fs : List (String × Json)} {a : α} (hfs : (fs.map (·.1)).Nodup)
    (haccepts : shape.Accepts fs) (hassemble : assemble (Json.fieldOf fs) = .ok a) :
    shape.readAs assemble (.obj fs) = .ok a := by
  have hread : shape.read (.obj fs) = .ok fs := haccepts.readFields hfs
  rw [readAs, hread]
  exact hassemble

/-- What is written, what is checked and what is read belong together: `fields` are written, and
`assemble` makes a value of the fields that were read. -/
structure Describes (shape : RecordShape) (fields : α → List (String × Json))
    (assemble : (String → Json) → Except DecodeError α) (Fits : α → Prop) : Prop where
  /-- No field may be left out. -/
  required : shape.optional = false
  /-- No field is declared twice. -/
  distinct : shape.names.Nodup
  /-- The declared fields are written. -/
  named : ∀ a, (fields a).map (·.1) = shape.names
  /-- The declared fields are read. -/
  assemble_congr : ∀ get get', (∀ n ∈ shape.names, get n = get' n) → assemble get = assemble get'
  /-- What is written passes the checks. -/
  accepted : ∀ a, Fits a → shape.Accepts (fields a)
  /-- Of what is written the value is made again. -/
  assembled : ∀ a, Fits a → assemble (Json.fieldOf (fields a)) = .ok a
  /-- Only values that fit are made. -/
  fits : ∀ get a, assemble get = .ok a → Fits a
  /-- Different values have different fields. -/
  injective : Function.Injective fields

namespace Describes

variable {shape : RecordShape} {fields : α → List (String × Json)}
  {assemble : (String → Json) → Except DecodeError α} {Fits : α → Prop}
  {fs fs' : List (String × Json)} {a : α}

theorem assemble_fieldOf (h : shape.Describes fields assemble Fits)
    (heq : ∀ n ∈ shape.names, fs.lookup n = fs'.lookup n) :
    assemble (Json.fieldOf fs) = assemble (Json.fieldOf fs') := by
  refine h.assemble_congr _ _ ?_
  intro n hn
  rw [Json.fieldOf, Json.fieldOf, heq n hn]

theorem fits_of_readAs (h : shape.Describes fields assemble Fits) {j : Json}
    (hread : shape.readAs assemble j = .ok a) : Fits a := by
  obtain ⟨fs, -, hassemble⟩ := exists_of_bind_eq_ok hread
  exact h.fits _ a hassemble

/-- What is read of an object is made of its declared fields. -/
theorem of_readAs_obj (h : shape.Describes fields assemble Fits)
    (hread : shape.readAs assemble (.obj fs) = .ok a) :
    shape.Accepts fs ∧ assemble (Json.fieldOf fs) = .ok a := by
  obtain ⟨fs', hfs, hassemble⟩ := exists_of_bind_eq_ok hread
  obtain ⟨rfl, haccepts⟩ := accepts_of_readFields h.required h.distinct hfs
  exact ⟨haccepts, hassemble⟩

/-- What was written is read back. -/
theorem readAs_object (h : shape.Describes fields assemble Fits) (hfits : Fits a) :
    shape.readAs assemble (.object (fields a)) = .ok a := by
  obtain ⟨fs, hobject, hfs, hlookup⟩ := Json.exists_object (h.named a ▸ h.distinct)
  have haccepts : shape.Accepts fs := (h.accepted a hfits).congr fun n _ => (hlookup n).symm
  rw [hobject]
  refine readAs_obj hfs haccepts ?_
  rw [h.assemble_fieldOf fun n _ => hlookup n, h.assembled a hfits]

/-- The items of an array are read as the fields of an object. -/
theorem readAs_arr_iff (h : shape.Describes fields assemble Fits) {items : List Json} :
    shape.readAs assemble (.arr items) = .ok a ↔ items.length = shape.names.length ∧
      shape.readAs assemble (.obj (shape.names.zip items)) = .ok a := by
  constructor
  · intro hread
    obtain ⟨fs, hfs, hassemble⟩ := exists_of_bind_eq_ok hread
    obtain ⟨hlength, rfl, haccepts⟩ := (readItems_eq_ok_iff h.required h.distinct).1 hfs
    exact ⟨hlength, readAs_obj (nodup_zip_names h.distinct hlength) haccepts hassemble⟩
  · rintro ⟨hlength, hread⟩
    obtain ⟨haccepts, hassemble⟩ := h.of_readAs_obj hread
    have hitems : shape.read (.arr items) = .ok (shape.names.zip items) :=
      (readItems_eq_ok_iff h.required h.distinct).2 ⟨hlength, rfl, haccepts⟩
    rw [readAs, hitems]
    exact hassemble

/-- **A record that is described is read as it was written.** -/
theorem faithful (h : shape.Describes fields assemble Fits) :
    Json.Faithful shape.names (fun a => .object (fields a)) (shape.readAs assemble) Fits where
  read_back a := ⟨h.fits_of_readAs, h.readAs_object⟩
  injective a b heq := by
    refine h.injective (Json.fields_eq_of_object_eq (h.named a ▸ h.distinct) ?_ heq)
    rw [h.named, h.named]
  containers j a hread := by
    obtain ⟨fs, hfs, -⟩ := exists_of_bind_eq_ok hread
    cases j with
    | obj fs => exact .inl ⟨fs, rfl⟩
    | arr items => exact .inr ⟨items, rfl⟩
    | _ => cases hfs
  present fs a hread n hn := by
    obtain ⟨f, hf, rfl⟩ := List.mem_map.1 hn
    exact ((h.of_readAs_obj hread).1 f hf).imp fun _ hj => hj.1
  any_order fs fs' a hfs' heq hread := by
    obtain ⟨haccepts, hassemble⟩ := h.of_readAs_obj hread
    refine readAs_obj hfs' (haccepts.congr heq) ?_
    rwa [← h.assemble_fieldOf heq]
  in_order items a := h.readAs_arr_iff
  rewritten j a hread := h.readAs_object (h.fits_of_readAs hread)
  idempotent j j' hrewrite := by
    cases hread : shape.readAs assemble j with
    | error e =>
      rw [hread] at hrewrite
      cases hrewrite
    | ok a =>
      rw [hread] at hrewrite
      obtain rfl := Except.ok.inj hrewrite
      rw [h.readAs_object (h.fits_of_readAs hread)]
      rfl

end Describes

end RecordShape

end EventLedger
