import EventLedger.Number.Shortest
import EventLedger.OrderedMap

/-!
# JSON values

The values of stored payloads, snapshots' states and envelopes.  Whole numbers and floating-point
numbers are different values, and the fields of an object are listed in ascending order of their
names.

## Main definitions

* `Json` — the values.
* `Json.same` — equality, where the two floating-point zeros are one value.
* `Json.object` — the object of a list of fields, where the last value of a name counts.
-/

namespace EventLedger

/-- A JSON value. -/
inductive Json
  | null
  | bool (b : Bool)
  /-- A whole number, written without point and exponent. -/
  | int (n : Int)
  /-- A floating-point number. -/
  | float (x : Binary64)
  | str (s : String)
  | arr (items : List Json)
  /-- The fields in ascending order of their names. -/
  | obj (fields : List (String × Json))
  deriving Repr, Inhabited

namespace Json

/-- The least whole number that is not read as a floating-point number. -/
def leastInt : Int := -9223372036854775808

/-- The greatest whole number that is not read as a floating-point number. -/
def greatestInt : Int := 18446744073709551615

mutual

/-- Whether two values are equal. -/
def same : Json → Json → Bool
  | .null, .null => true
  | .bool a, .bool b => a == b
  | .int a, .int b => a == b
  | .float a, .float b => a.same b
  | .str a, .str b => a == b
  | .arr a, .arr b => sameItems a b
  | .obj a, .obj b => sameFields a b
  | _, _ => false

/-- Whether two lists of values are equal. -/
def sameItems : List Json → List Json → Bool
  | [], [] => true
  | a :: as, b :: bs => same a b && sameItems as bs
  | _, _ => false

/-- Whether two lists of fields are equal. -/
def sameFields : List (String × Json) → List (String × Json) → Bool
  | [], [] => true
  | (n, a) :: as, (m, b) :: bs => n == m && same a b && sameFields as bs
  | _, _ => false

end

mutual

/-- Every value is equal to itself. -/
theorem same_self : ∀ j : Json, j.same j = true
  | .null => rfl
  | .bool b => beq_self_eq_true b
  | .int n => beq_self_eq_true n
  | .float x => beq_self_eq_true x.scaled
  | .str s => beq_self_eq_true s
  | .arr items => sameItems_self items
  | .obj fields => sameFields_self fields

theorem sameItems_self : ∀ items : List Json, sameItems items items = true
  | [] => rfl
  | j :: items => by rw [sameItems, same_self j, sameItems_self items, Bool.and_self]

theorem sameFields_self : ∀ fields : List (String × Json), sameFields fields fields = true
  | [] => rfl
  | (n, j) :: fields => by
    rw [sameFields, same_self j, sameFields_self fields, beq_self_eq_true]
    rfl

end

/-- The object with the given fields; the last value of a name counts. -/
def object (fields : List (String × Json)) : Json :=
  .obj (fields.foldl (fun fs f => OrderedMap.insertEntry f.1 f.2 fs) [])

/-- A whole number that is not negative. -/
def nat (n : Nat) : Json := .int n

/-- The value or `null`. -/
def ofOption : Option Json → Json
  | some j => j
  | none => .null

/-- The field of that name, if the value is an object that has one. -/
def field? (name : String) : Json → Option Json
  | .obj fields => fields.lookup name
  | _ => none

end Json

end EventLedger
