import EventLedger.Json.Value
import EventLedger.Number.Unsigned

/-!
# Reading JSON text

A reader of JSON text.  A number without point and exponent that fits 64 bits is whole; every other
number, and the literal `-0`, is a floating-point number.  A name that occurs twice in an object has
its last value.

## Main definitions

* `Json.parse?` — the value of a text.
-/

namespace EventLedger.Json

/-- The text without leading blanks. -/
def skipBlanks : List Char → List Char
  | ' ' :: cs => skipBlanks cs
  | '\t' :: cs => skipBlanks cs
  | '\n' :: cs => skipBlanks cs
  | '\r' :: cs => skipBlanks cs
  | cs => cs

/-- Four hexadecimal digits and the text after them. -/
def hex4? : List Char → Option (Nat × List Char)
  | a :: b :: c :: d :: rest => do
    let w ← hexValue? a
    let x ← hexValue? b
    let y ← hexValue? c
    let z ← hexValue? d
    pure (((w * 16 + x) * 16 + y) * 16 + z, rest)
  | _ => none

/-- The character of an escape with four hexadecimal digits; two of them make one character above
`U+FFFF`. -/
def unicodeEscape? (cs : List Char) : Option (Char × List Char) := do
  let (n, rest) ← hex4? cs
  if 0xD800 ≤ n ∧ n < 0xDC00 then
    match rest with
    | '\\' :: 'u' :: rest' =>
      let (m, rest'') ← hex4? rest'
      if 0xDC00 ≤ m ∧ m < 0xE000 then
        pure (Char.ofNat (0x10000 + (n - 0xD800) * 0x400 + (m - 0xDC00)), rest'')
      else none
    | _ => none
  else if 0xDC00 ≤ n ∧ n < 0xE000 then none
  else pure (Char.ofNat n, rest)

/-- The rest of a string literal after its opening quote; `acc` holds the characters read, the last
one first. -/
def readString : Nat → List Char → List Char → Option (String × List Char)
  | 0, _, _ => none
  | fuel + 1, acc, cs =>
    match cs with
    | [] => none
    | '\"' :: rest => some (String.ofList acc.reverse, rest)
    | '\\' :: 'u' :: rest => (unicodeEscape? rest).bind fun r => readString fuel (r.1 :: acc) r.2
    | '\\' :: c :: rest =>
      match c with
      | '\"' | '\\' | '/' => readString fuel (c :: acc) rest
      | 'b' => readString fuel ('\x08' :: acc) rest
      | 'f' => readString fuel ('\x0c' :: acc) rest
      | 'n' => readString fuel ('\n' :: acc) rest
      | 'r' => readString fuel ('\r' :: acc) rest
      | 't' => readString fuel ('\t' :: acc) rest
      | _ => none
    | c :: rest => if c.toNat < 0x20 then none else readString fuel (c :: acc) rest

/-- The leading decimal digits and the text after them. -/
def takeDigits (cs : List Char) : List Char × List Char :=
  (cs.takeWhile Char.isDigit, cs.dropWhile Char.isDigit)

/-- The whole number that the digits write. -/
def digitsValue (ds : List Char) : Nat := ds.foldl (fun n c => n * 10 + (c.toNat - '0'.toNat)) 0

/-- The greatest significand that is read digit by digit. -/
def greatestSignificand : Nat := 18446744073709551615

/-- The significand and the power of ten of a whole part and a fraction.  Digits that would carry
the significand above 64 bits are not read; those of the whole part still count as places. -/
def significand (whole fraction : List Char) : Nat × Int :=
  let step (s : Nat × Int × Bool) (inFraction : Bool) (c : Char) : Nat × Int × Bool :=
    let n := s.1 * 10 + (c.toNat - '0'.toNat)
    if s.2.2 ∨ greatestSignificand < n then (s.1, if inFraction then s.2.1 else s.2.1 + 1, true)
    else (n, if inFraction then s.2.1 - 1 else s.2.1, false)
  let s := whole.foldl (fun s c => step s false c) (0, 0, false)
  let t := fraction.foldl (fun s c => step s true c) s
  (t.1, t.2.1)

/-- An exponent and the text after it; zero if there is none. -/
def readExponent (cs : List Char) : Option (Option Int × List Char) :=
  match cs with
  | c :: rest =>
    if c = 'e' ∨ c = 'E' then
      let (sign, rest) := match rest with
        | '+' :: r => (1, r)
        | '-' :: r => (-1, r)
        | r => ((1 : Int), r)
      let ds := takeDigits rest
      if ds.1.isEmpty then none else some (some (sign * (digitsValue ds.1 : Int)), ds.2)
    else some (none, cs)
  | [] => some (none, cs)

/-- A fraction and the text after it. -/
def readFraction (cs : List Char) : Option (Option (List Char) × List Char) :=
  match cs with
  | '.' :: rest =>
    let ds := takeDigits rest
    if ds.1.isEmpty then none else some (some ds.1, ds.2)
  | _ => some (none, cs)

/-- A number and the text after it. -/
def readNumber (cs : List Char) : Option (Json × List Char) := do
  let (negative, cs) := match cs with
    | '-' :: rest => (true, rest)
    | _ => (false, cs)
  let (whole, rest) := takeDigits cs
  if whole.isEmpty ∨ (whole.head? = some '0' ∧ whole.length ≠ 1) then none
  let (fraction, rest) ← readFraction rest
  let (exponent, rest) ← readExponent rest
  let n : Int := digitsValue whole
  -- without point and exponent the literal is whole, if 64 bits hold it and it is not `-0`
  if fraction.isNone ∧ exponent.isNone then
    if negative = false ∧ n ≤ greatestInt then return (.int n, rest)
    if negative = true ∧ 0 < n ∧ leastInt ≤ -n then return (.int (-n), rest)
  let (s, k) := significand whole (fraction.getD [])
  let x ← Binary64.ofDecimal? negative s (k + exponent.getD 0)
  return (.float x, rest)

/-- The text after a word. -/
def skipWord? (word cs : List Char) : Option (List Char) :=
  if word.isPrefixOf cs then some (cs.drop word.length) else none

mutual

/-- A value and the text after it. -/
def readValue : Nat → List Char → Option (Json × List Char)
  | 0, _ => none
  | fuel + 1, cs =>
    match skipBlanks cs with
    | '[' :: rest =>
      match skipBlanks rest with
      | ']' :: rest' => some (.arr [], rest')
      | rest' => (readItems fuel rest').map fun r => (.arr r.1, r.2)
    | '\x7b' :: rest =>
      match skipBlanks rest with
      | '\x7d' :: rest' => some (.obj [], rest')
      | rest' => (readFields fuel [] rest').map fun r => (.obj r.1, r.2)
    | '\"' :: rest => (readString (rest.length + 1) [] rest).map fun r => (.str r.1, r.2)
    | 'n' :: rest => (skipWord? ['u', 'l', 'l'] rest).map fun r => (.null, r)
    | 't' :: rest => (skipWord? ['r', 'u', 'e'] rest).map fun r => (.bool true, r)
    | 'f' :: rest => (skipWord? ['a', 'l', 's', 'e'] rest).map fun r => (.bool false, r)
    | rest => readNumber rest

/-- The items of an array up to its closing bracket, and the text after it. -/
def readItems : Nat → List Char → Option (List Json × List Char)
  | 0, _ => none
  | fuel + 1, cs => do
    let (j, rest) ← readValue fuel cs
    match skipBlanks rest with
    | ',' :: rest' =>
      let (js, rest'') ← readItems fuel rest'
      pure (j :: js, rest'')
    | ']' :: rest' => pure ([j], rest')
    | _ => none

/-- The fields of an object up to its closing bracket, added to those in `acc`, and the text after
it. -/
def readFields : Nat → List (String × Json) → List Char → Option (List (String × Json) × List Char)
  | 0, _, _ => none
  | fuel + 1, acc, cs => do
    match skipBlanks cs with
    | '\"' :: rest =>
      let (name, rest) ← readString (rest.length + 1) [] rest
      match skipBlanks rest with
      | ':' :: rest =>
        let (j, rest) ← readValue fuel rest
        match skipBlanks rest with
        | ',' :: rest' => readFields fuel (OrderedMap.insertEntry name j acc) rest'
        | '\x7d' :: rest' => pure (OrderedMap.insertEntry name j acc, rest')
        | _ => none
      | _ => none
    | _ => none

end

/-- The value that the text writes, if it writes one and nothing else. -/
def parse? (s : String) : Option Json := do
  let cs := s.toList
  let (j, rest) ← readValue (2 * cs.length + 2) cs
  match skipBlanks rest with
  | [] => some j
  | _ => none

end EventLedger.Json
