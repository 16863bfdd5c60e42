/-!
# UTF-8

Texts as bytes, and bytes that may be no text.  Where bytes go wrong, the longest part that could
have begun a character counts as one fault.

## Main definitions

* `Text.bytes` — the bytes of a text.
* `Text.pieces` — bytes cut into characters and faults.
* `Text.readUtf8`, `Text.readLossy` — the text of bytes, or what is wrong with them; and the text in
  which a mark stands for every fault.
-/

namespace EventLedger.Text

/-- The bytes of a text. -/
def bytes (s : String) : List UInt8 := s.toList.flatMap String.utf8EncodeChar

/-- A part of a sequence of bytes. -/
inductive Piece
  /-- A character. -/
  | char (c : Char)
  /-- Bytes that are no character and do not begin one either. -/
  | invalid (size : Nat)
  /-- The beginning of a character at the end of the sequence. -/
  | cut
  deriving DecidableEq, Repr

/-- How many bytes follow a first byte, and between which values the next of them lies. -/
def lead? (b : UInt8) : Option (Nat × Nat × Nat) :=
  let n := b.toNat
  if n < 0x80 then some (0, 0, 0)
  else if n < 0xC2 then none
  else if n < 0xE0 then some (1, 0x80, 0xBF)
  else if n < 0xF0 then
    -- no longer form of what fewer bytes write, and no surrogate
    some (2, if n = 0xE0 then 0xA0 else 0x80, if n = 0xED then 0x9F else 0xBF)
  else if n < 0xF5 then
    -- no longer form, and nothing above the last code point
    some (3, if n = 0xF0 then 0x90 else 0x80, if n = 0xF4 then 0x8F else 0xBF)
  else none

/-- The bytes that continue a character, at most `n`; the first of them lies between `low` and
`high`. -/
def following : Nat → Nat → Nat → List UInt8 → List UInt8
  | n + 1, low, high, b :: bs =>
    if low ≤ b.toNat ∧ b.toNat ≤ high then b :: following n 0x80 0xBF bs else []
  | _, _, _, _ => []

/-- The character of a first byte and those that follow it. -/
def charOf (b : UInt8) (more : List UInt8) : Char :=
  let start := if more.isEmpty then b.toNat else b.toNat % (0x40 >>> more.length)
  Char.ofNat (more.foldl (fun n c => n * 64 + c.toNat % 64) start)

/-- The piece that starts with a byte, and how many of the bytes after it belong to it. -/
def firstPiece (b : UInt8) (bs : List UInt8) : Piece × Nat :=
  match lead? b with
  | none => (.invalid 1, 0)
  | some (n, low, high) =>
    let more := following n low high bs
    if more.length = n then (.char (charOf b more), n)
    else if more.length = bs.length then (.cut, more.length)
    else (.invalid (more.length + 1), more.length)

/-- The pieces of a sequence of bytes. -/
def pieces : List UInt8 → List Piece
  | [] => []
  | b :: bs => (firstPiece b bs).1 :: pieces (bs.drop (firstPiece b bs).2)
termination_by bs => bs.length
decreasing_by simp only [List.length_drop, List.length_cons]; omega

/-- Why bytes are no text. -/
inductive Utf8Fault
  /-- The bytes from an index on are no character. -/
  | invalid (size index : Nat)
  /-- The bytes end inside the character that starts at an index. -/
  | incomplete (index : Nat)
  deriving DecidableEq, Repr

/-- The wording of a fault. -/
def Utf8Fault.message : Utf8Fault → String
  | .invalid size index => s!"invalid utf-8 sequence of {size} bytes from index {index}"
  | .incomplete index => s!"incomplete utf-8 byte sequence from index {index}"

/-- The characters of pieces that start at an index, up to the first fault. -/
def readPieces : Nat → List Piece → Except Utf8Fault (List Char)
  | _, [] => .ok []
  | i, .char c :: ps => (readPieces (i + c.utf8Size) ps).map (c :: ·)
  | i, .invalid size :: _ => .error (.invalid size i)
  | i, .cut :: _ => .error (.incomplete i)

/-- The text of bytes. -/
def readUtf8 (bs : List UInt8) : Except Utf8Fault String :=
  (readPieces 0 (pieces bs)).map String.ofList

/-- The text of bytes with the replacement character in the place of every fault. -/
def readLossy (bs : List UInt8) : String :=
  String.ofList ((pieces bs).map fun
    | .char c => c
    | _ => Char.ofNat 0xFFFD)

end EventLedger.Text
