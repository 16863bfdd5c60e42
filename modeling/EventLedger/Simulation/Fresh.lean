import EventLedger.Json.Value
import EventLedger.Uuid

/-!
# Fresh identifiers

Identifiers for what a rehearsal makes up on its own.  They share a stem, their first eight digits,
which is chosen so that no identifier that the rehearsal was given starts with it.

## Main definitions

* `Uuid.stem`, `freshId` — the stem of an identifier, and the identifiers of a stem.
* `stemBeside` — a stem that no identifier in a value has.
-/

namespace EventLedger

/-- The number that the first eight digits of an identifier write. -/
def Uuid.stem (u : Uuid) : Nat := (u.digits.take 8).foldl (fun n d => n * 16 + d.val) 0

namespace Simulation

/-- The identifier number `n` of a stem. -/
def freshId (stem n : Nat) : Uuid := .ofNat (stem <<< 96 + n)

mutual

/-- The texts in a value. -/
def textsIn : Json → List String
  | .str s => [s]
  | .arr js => textsInItems js
  | .obj fs => textsInFields fs
  | _ => []

/-- The texts in the items of an array. -/
def textsInItems : List Json → List String
  | [] => []
  | j :: js => textsIn j ++ textsInItems js

/-- The texts in the fields of an object. -/
def textsInFields : List (String × Json) → List String
  | [] => []
  | (_, j) :: fs => textsIn j ++ textsInFields fs

end

/-- The stems of the identifiers that a value mentions. -/
def stemsIn (j : Json) : List Nat := (textsIn j).filterMap fun s => (Uuid.parse? s).map Uuid.stem

/-- The least stem from `f0000000` on that no identifier in a value has. -/
def stemBeside (j : Json) : Nat :=
  let taken := stemsIn j
  let stems := (List.range (taken.length + 1)).map (0xF0000000 + ·)
  (stems.find? fun s => !taken.contains s).getD 0xF0000000

end Simulation

end EventLedger
