import EventLedger.Error
import EventLedger.Json.Printer
import EventLedger.Uuid

/-!
# Decoding JSON values

Reading domain values from JSON, with the cause of the first failure.  The fields of an object are
visited in ascending order of their names; a field that is unknown is passed over, and a field that
is missing is reported after all fields that are present have been read.

## Main definitions

* `DecodeError` — the causes, with `DecodeError.message`.
* `Json.readText`, `Json.readWord`, `Json.readBool`, `Json.readList` — values of one shape.
* `RecordShape`, `RecordShape.read` — records, given as an object or as the array of their fields.
-/

namespace EventLedger

/-- Why a JSON value does not decode. -/
inductive DecodeError
  /-- A value of another kind stands in the place. -/
  | invalidType (found expected : String)
  /-- A value of the right kind is out of range. -/
  | invalidValue (found expected : String)
  /-- A field is missing. -/
  | missingField (name : String)
  /-- An array has the wrong number of items. -/
  | invalidLength (found : Nat) (expected : String)
  /-- A name is none of the known ones. -/
  | unknownVariant (name : String) (known : List String)
  /-- A text breaks the rule of the type that it should write. -/
  | refused (reason : String)
  deriving DecidableEq, Repr

namespace DecodeError

/-- A list of names, each in backticks. -/
def namesText (names : List String) : String :=
  match names with
  | [a] => s!"`{a}`"
  | [a, b] => s!"`{a}` or `{b}`"
  | names => "one of " ++ ", ".intercalate (names.map fun n => s!"`{n}`")

/-- The wording of a cause. -/
def message : DecodeError → String
  | .invalidType found expected => s!"invalid type: {found}, expected {expected}"
  | .invalidValue found expected => s!"invalid value: {found}, expected {expected}"
  | .missingField name => s!"missing field `{name}`"
  | .invalidLength n expected => s!"invalid length {n}, expected {expected}"
  | .unknownVariant name known => s!"unknown variant `{name}`, expected {namesText known}"
  | .refused reason => reason

end DecodeError

namespace Json

/-- What a value is called in messages. -/
def shapeText : Json → String
  | .null => "null"
  | .bool b => s!"boolean `{b}`"
  | .int n => s!"integer `{n}`"
  | .float x => s!"floating point `{floatText x}`"
  | .str s => s!"string {Text.quoted s}"
  | .arr _ => "sequence"
  | .obj _ => "map"

/-- The failure of finding this value where another kind is expected. -/
def unexpected (j : Json) (expected : String) : DecodeError := .invalidType j.shapeText expected

/-- A text. -/
def readText : Json → Except DecodeError String
  | .str s => .ok s
  | j => .error (j.unexpected "a string")

/-- A truth value. -/
def readBool : Json → Except DecodeError Bool
  | .bool b => .ok b
  | j => .error (j.unexpected "a boolean")

/-- A kind of bounded whole numbers. -/
structure WordKind where
  /-- The name of the kind in messages. -/
  name : String
  /-- The greatest number. -/
  greatest : Nat

/-- Whole numbers of 32 bits. -/
def word32 : WordKind := ⟨"u32", 4294967295⟩

/-- Whole numbers of 64 bits. -/
def word64 : WordKind := ⟨"u64", 18446744073709551615⟩

/-- Sizes and counts of 64 bits. -/
def size64 : WordKind := ⟨"usize", 18446744073709551615⟩

/-- A whole number of the kind. -/
def readWord (k : WordKind) : Json → Except DecodeError Nat
  | .int n =>
    if 0 ≤ n ∧ n ≤ k.greatest then .ok n.toNat
    else .error (.invalidValue (Json.int n).shapeText k.name)
  | j => .error (j.unexpected k.name)

/-- A list whose items `item` reads. -/
def readList {α : Type} (item : Json → Except DecodeError α) : Json → Except DecodeError (List α)
  | .arr js => js.mapM item
  | j => .error (j.unexpected "a sequence")

/-- An aggregate identifier. -/
def readAggregateId (j : Json) : Except DecodeError AggregateId := do
  let s ← j.readText
  match AggregateId.ofString? s with
  | some i => .ok i
  | none => .error (.refused (Error.invalidAggregateId s).message)

/-- A universally unique identifier. -/
def readUuid : Json → Except DecodeError Uuid
  | .str s =>
    match Uuid.parse s with
    | .ok u => .ok u
    | .error f => .error (.refused s!"UUID parsing failed: {f.message}")
  | j => .error (j.unexpected "a formatted UUID string")

/-- Accepts every value. -/
def readAny (_ : Json) : Except DecodeError Unit := .ok ()

/-- Whether a reader succeeds on a value, and its failure if not. -/
def check {α : Type} (read : Json → Except DecodeError α) (j : Json) : Except DecodeError Unit :=
  (read j).map fun _ => ()

end Json

/-- The shape of a record: what it is called, and its fields in declared order, each with a check of
its value. -/
structure RecordShape where
  /-- What the record is called in messages. -/
  name : String
  /-- The fields in declared order. -/
  fields : List (String × (Json → Except DecodeError Unit))
  /-- Whether fields may be left out. -/
  optional : Bool := false

namespace RecordShape

/-- A number of fields in words. -/
def countText (n : Nat) : String := if n = 1 then "1 element" else s!"{n} elements"

/-- Checks the known fields of an object in the order in which they stand. -/
def checkFields (shape : RecordShape) : List (String × Json) → Except DecodeError Unit
  | [] => .ok ()
  | f :: rest =>
    match shape.fields.lookup f.1 with
    | none => checkFields shape rest
    | some check => do
      check f.2
      checkFields shape rest

/-- The declared fields that an object lacks. -/
def missing (shape : RecordShape) (fields : List (String × Json)) : List String :=
  (shape.fields.map (·.1)).filter fun n => (fields.lookup n).isNone

/-- The record's fields in an object. -/
def readFields (shape : RecordShape) (fields : List (String × Json)) :
    Except DecodeError (List (String × Json)) := do
  shape.checkFields fields
  match shape.missing fields with
  | n :: _ => if shape.optional then pure fields else throw (.missingField n)
  | [] => pure fields

/-- Checks items against the fields in declared order and pairs them with their names; `found`
counts the items before them.  An item without a field and a field without an item are failures, the
latter unless fields may be left out. -/
def pairItems (shape : RecordShape) (tooMany : Nat → DecodeError) (total : Nat) :
    Nat → List (String × (Json → Except DecodeError Unit)) → List Json →
      Except DecodeError (List (String × Json))
  | _, [], [] => .ok []
  | _, [], _ :: _ => .error (tooMany total)
  | found, _ :: _, [] =>
    if shape.optional then .ok []
    else .error (.invalidLength found s!"{shape.name} with {countText shape.fields.length}")
  | found, f :: fs, j :: js => do
    f.2 j
    let rest ← pairItems shape tooMany total (found + 1) fs js
    pure ((f.1, j) :: rest)

/-- The failure of an array with more items than fields. -/
def tooManyItems (total : Nat) : DecodeError :=
  .invalidLength total "fewer elements in array"

/-- The record's fields in an array of them. -/
def readItems (shape : RecordShape) (items : List Json) :
    Except DecodeError (List (String × Json)) :=
  shape.pairItems tooManyItems items.length 0 shape.fields items

/-- The record's fields, each checked, from an object or from an array in declared order. -/
def read (shape : RecordShape) : Json → Except DecodeError (List (String × Json))
  | .obj fields => shape.readFields fields
  | .arr items => shape.readItems items
  | j => .error (j.unexpected shape.name)

end RecordShape

namespace Json

/-- The field of that name among the fields of a record that has been read. -/
def fieldOf (fields : List (String × Json)) (name : String) : Json :=
  (fields.lookup name).getD .null

/-- The field of that name, read, or the default if it was left out. -/
def fieldOr {α : Type} (fields : List (String × Json)) (name : String)
    (read : Json → Except DecodeError α) (default : α) : Except DecodeError α :=
  match fields.lookup name with
  | some j => read j
  | none => .ok default

end Json

end EventLedger
