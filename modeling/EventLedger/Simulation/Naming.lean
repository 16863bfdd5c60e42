import EventLedger.Json.Value

/-!
# Naming generated identifiers

Generated identifiers differ from run to run.  To compare runs, they are replaced by names that
number them in the order in which they appear.  An identifier keeps its first name, whatever fields
it appears in.

## Main definitions

* `nameIdentifiers` — the value with the texts of chosen fields replaced.
-/

namespace EventLedger.Simulation

/-- The name of an identifier: its kind, and its number among those of its kind, from 1. -/
structure GivenName where
  /-- The kind. -/
  kind : String
  /-- The number. -/
  number : Nat

/-- The text of a name. -/
def GivenName.text (n : GivenName) : String := s!"{n.kind}#{n.number}"

/-- The identifiers that have been named, with their names. -/
abbrev Named := List (String × GivenName)

/-- The name of an identifier, which is the next one of the given kind if it has none yet. -/
def nameOf (named : Named) (kind id : String) : GivenName × Named :=
  match named.lookup id with
  | some name => (name, named)
  | none =>
    let name : GivenName := ⟨kind, named.countP (fun e => e.2.kind == kind) + 1⟩
    (name, (id, name) :: named)

mutual

/-- The value with the identifiers named that stand in the fields which `kinds` lists with the kind
of their identifiers; the value itself stands in the field `field`. -/
def nameIn (kinds : List (String × String)) (named : Named) (field : String) : Json → Json × Named
  | .str s =>
    match kinds.lookup field with
    | some kind =>
      let r := nameOf named kind s
      (.str r.1.text, r.2)
    | none => (.str s, named)
  | .arr js =>
    let r := nameInItems kinds named js
    (.arr r.1, r.2)
  | .obj fs =>
    let r := nameInFields kinds named fs
    (.obj r.1, r.2)
  | j => (j, named)

/-- The items of an array with identifiers named. -/
def nameInItems (kinds : List (String × String)) (named : Named) : List Json → List Json × Named
  | [] => ([], named)
  | j :: js =>
    let r := nameIn kinds named "" j
    let s := nameInItems kinds r.2 js
    (r.1 :: s.1, s.2)

/-- The fields of an object with identifiers named. -/
def nameInFields (kinds : List (String × String)) (named : Named) :
    List (String × Json) → List (String × Json) × Named
  | [] => ([], named)
  | (n, j) :: fs =>
    let r := nameIn kinds named n j
    let s := nameInFields kinds r.2 fs
    ((n, r.1) :: s.1, s.2)

end

/-- The value with the texts of the fields `batch_id` and `event_id` replaced by names in the order
of appearance. -/
def nameIdentifiers (j : Json) : Json :=
  (nameIn [("batch_id", "batch"), ("event_id", "event")] [] "" j).1

end EventLedger.Simulation
