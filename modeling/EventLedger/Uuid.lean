import EventLedger.Json.Parser

/-!
# Universally unique identifiers

Identifiers of 128 bits, kept as their 32 hexadecimal digits.  They are written in five groups
parted by hyphens; read are that form, alone, in braces or after `urn:uuid:`, and the bare digits.

## Main definitions

* `Uuid` — the identifiers.
* `Uuid.text` — the hyphenated form in lower case.
* `Uuid.parse` — the identifier of a text, or why there is none.
-/

namespace EventLedger

/-- An identifier: its 32 hexadecimal digits, the most significant one first. -/
structure Uuid where
  /-- The digits. -/
  digits : List (Fin 16)
  /-- There are 32 of them. -/
  length_eq : digits.length = 32
  deriving DecidableEq

namespace Uuid

/-- The identifier whose digits write `n`, modulo `2 ^ 128`. -/
def ofNat (n : Nat) : Uuid :=
  ⟨(List.range 32).map fun i => Fin.ofNat 16 (n >>> (4 * (31 - i))), by simp⟩

instance : Inhabited Uuid := ⟨ofNat 0⟩

/-- The lower-case character of a digit. -/
def digitChar (d : Fin 16) : Char := Nat.digitChar d.val

/-- The digit that a character writes, in either case. -/
def digit? (c : Char) : Option (Fin 16) := (hexValue? c).map (Fin.ofNat 16)

/-- The sizes of the groups of the hyphenated form. -/
def groupSizes : List Nat := [8, 4, 4, 4, 12]

/-- The digits in groups of the given sizes, parted by hyphens. -/
def groups : List Nat → List (Fin 16) → List Char
  | [], _ => []
  | [n], ds => (ds.take n).map digitChar
  | n :: ns, ds => (ds.take n).map digitChar ++ '-' :: groups ns (ds.drop n)

/-- The hyphenated form in lower case. -/
def text (u : Uuid) : String := String.ofList (groups groupSizes u.digits)

/-- Reads `n` digits. -/
def readDigits : Nat → List Char → Option (List (Fin 16) × List Char)
  | 0, cs => some ([], cs)
  | n + 1, c :: cs => do
    let d ← digit? c
    let (ds, rest) ← readDigits n cs
    pure (d :: ds, rest)
  | _ + 1, [] => none

/-- Reads digits in groups of the given sizes, parted by hyphens, up to the end of the text. -/
def readGroups : List Nat → List Char → Option (List (Fin 16))
  | [], cs => if cs.isEmpty then some [] else none
  | [n], cs => do
    let (ds, rest) ← readDigits n cs
    if rest.isEmpty then pure ds else none
  | n :: ns, cs => do
    let (ds, rest) ← readDigits n cs
    match rest with
    | '-' :: rest => (readGroups ns rest).map (ds ++ ·)
    | _ => none

/-- The identifier with the given digits, if there are 32. -/
def ofDigits? (ds : List (Fin 16)) : Option Uuid :=
  if h : ds.length = 32 then some ⟨ds, h⟩ else none

/-- The text that may stand before the hyphenated form, in either case. -/
def urn : List Char := "urn:uuid:".toList

/-- The bytes of the hyphenated form. -/
def hyphenatedSize : Nat := 36

/-- The bytes of the longest form, the hyphenated one after `urn:uuid:`. -/
def longestSize : Nat := urn.length + hyphenatedSize

/-- The text inside braces or after `urn:uuid:`, and how much stands before it; `none` for a text
without such a wrapping.  A text of the size of the hyphenated form is taken for that, whatever it
starts with. -/
def unwrap? (s : String) : Option (Nat × List Char) :=
  let cs := s.toList
  if s.utf8ByteSize = hyphenatedSize then none
  else if cs.head? = some '\x7b' ∧ cs.getLast? = some '\x7d' ∧ 2 ≤ cs.length then
    some (1, cs.tail.dropLast)
  else if (cs.take urn.length).map Char.toLower = urn then some (urn.length, cs.drop urn.length)
  else none

/-- The identifier that a text writes. -/
def parse? (s : String) : Option Uuid :=
  match unwrap? s with
  | some (_, inner) => (readGroups groupSizes inner).bind ofDigits?
  | none =>
    ((readGroups [32] s.toList).orElse fun _ => readGroups groupSizes s.toList).bind ofDigits?

/-- Why a text writes no identifier. -/
inductive Fault
  /-- A character is neither a digit nor a hyphen. -/
  | character (c : Char) (index : Nat)
  /-- The text is longer than every form, or is taken for the bare digits and has not 32 bytes. -/
  | length (found : Nat)
  /-- There are not five groups. -/
  | groupCount (found : Nat)
  /-- A group has a wrong number of digits. -/
  | groupLength (group expected found : Nat)
  deriving DecidableEq, Repr

/-- The wording of a fault. -/
def Fault.message : Fault → String
  | .character c i => s!"invalid character: found `{c}` at {i}"
  | .length n => s!"invalid length: found {n}"
  | .groupCount n => s!"invalid group count: expected 5, found {n}"
  | .groupLength g e n => s!"invalid group length in group {g}: expected {e}, found {n}"

/-- The fault of the first group whose number of digits is wrong.  The last group is not counted,
but held to reach from its place in the hyphenated form to the end of a text of `size` bytes, a
wrapping included. -/
def wrongGroup (size : Nat) : Nat → List Nat → List (List Char) → Fault
  | i, n :: m :: ns, g :: gs =>
    if g.length = n then wrongGroup size (i + 1) (m :: ns) gs else .groupLength i n g.length
  | i, ns, _ =>
    let last := ns.headD 0
    .groupLength i last (size - (hyphenatedSize - last))

/-- The fault of the first character that is neither a digit nor a hyphen.  Its place is counted in
the whole text, of which `before` stands ahead of the given part; but a part of the size of the
hyphenated form is looked at by itself. -/
def wrongCharacter? (before : Nat) (inner : List Char) : Option Fault :=
  (inner.findIdx? fun c => c != '-' && (digit? c).isNone).map fun i =>
    let size := (String.ofList inner).utf8ByteSize
    .character (inner.getD i ' ') (if size = hyphenatedSize then i else before + i)

/-- What is wrong with a text that writes no identifier. -/
def faultOf (s : String) : Fault :=
  let size := s.utf8ByteSize
  let wrapped := unwrap? s
  let (before, inner) := wrapped.getD (0, s.toList)
  if longestSize < size then .length size
  else
    match wrongCharacter? before inner with
    | some fault => fault
    | none =>
      let gs := inner.splitOn '-'
      if gs.length = 1 ∧ wrapped.isNone ∧ size ≠ hyphenatedSize then .length size
      else if gs.length ≠ groupSizes.length then .groupCount gs.length
      else wrongGroup size 0 groupSizes gs

/-- The identifier that a text writes, or why it writes none. -/
def parse (s : String) : Except Fault Uuid :=
  match parse? s with
  | some u => .ok u
  | none => .error (faultOf s)

end Uuid

end EventLedger
