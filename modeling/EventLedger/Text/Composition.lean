import EventLedger.Text.Composition.Table

/-!
# Composition

A letter and its marks can be written as one character or as several, and marks in different places
in any order.  The composed form settles both: marks are ordered by their class, then each letter is
joined with as many of its marks as there is a character for.

The form is that of texts that have been folded, since characters that folding replaces are not in
its tables.

## Main definitions

* `Text.markClass` — the class of a mark; 0 for what starts a letter.
* `Text.decompose` — each character in its parts, with the marks in order.
* `Text.compose` — the composed form.
-/

namespace EventLedger.Text

/-! ### Korean syllables -/

/-- The first Korean syllable. -/
def firstSyllable : Nat := 0xAC00

/-- The first of 19 leading consonants. -/
def firstLeading : Nat := 0x1100

/-- The first of 21 vowels. -/
def firstVowel : Nat := 0x1161

/-- What stands before the first of 27 trailing consonants. -/
def beforeTrailing : Nat := 0x11A7

/-- The leading consonant, the vowel and the trailing consonant, if there is one, of a syllable. -/
def syllableParts? (c : Char) : Option (List Char) :=
  let n := c.toNat - firstSyllable
  if firstSyllable ≤ c.toNat ∧ n < 19 * 21 * 28 then
    let trailing := if n % 28 = 0 then [] else [Char.ofNat (beforeTrailing + n % 28)]
    some (Char.ofNat (firstLeading + n / (21 * 28)) ::
      Char.ofNat (firstVowel + n / 28 % 21) :: trailing)
  else none

/-- The place of a character among `count` that start with the number `first`. -/
def placeAmong? (first count : Nat) (c : Char) : Option Nat :=
  if first ≤ c.toNat ∧ c.toNat < first + count then some (c.toNat - first) else none

/-- The syllable that parts make up. -/
def syllable? : List Char → Option Char
  | [l, v] => do
    let leading ← placeAmong? firstLeading 19 l
    let vowel ← placeAmong? firstVowel 21 v
    pure (Char.ofNat (firstSyllable + (leading * 21 + vowel) * 28))
  | [l, v, t] => do
    let leading ← placeAmong? firstLeading 19 l
    let vowel ← placeAmong? firstVowel 21 v
    let trailing ← placeAmong? (beforeTrailing + 1) 27 t
    pure (Char.ofNat (firstSyllable + (leading * 21 + vowel) * 28 + trailing + 1))
  | _ => none

/-! ### Parts and order -/

/-- The class of a mark; 0 for a character that starts anew. -/
def markClass (c : Char) : Nat :=
  ((markClassRanges.find? fun r => r.1 ≤ c.toNat && c.toNat ≤ r.2.1).map (·.2.2)).getD 0

/-- The parts of a character that is composed; else itself. -/
def parts (c : Char) : List Char :=
  ((syllableParts? c).orElse fun _ => compositeRuns.entry? c).getD [c]

/-- A text in order with one more character before it, which goes behind the marks of lower classes
if it is a mark. -/
def insertMark (c : Char) : List Char → List Char
  | [] => [c]
  | d :: ds =>
    if 0 < markClass d ∧ markClass d < markClass c then d :: insertMark c ds else c :: d :: ds

/-- Each character in its parts, with the marks in order. -/
def decompose (cs : List Char) : List Char := (cs.flatMap parts).foldr insertMark []

/-! ### The composed form -/

/-- The composed characters by their parts. -/
def composites : List (Char × List Char) := compositeRuns.entries

/-- The character that is composed of the given parts. -/
def composed? (cs : List Char) : Option Char :=
  match cs with
  | [c] => some c
  | _ => (syllable? cs).orElse fun _ => (composites.find? fun e => e.2 == cs).map (·.1)

/-- What a letter is so far: the parts that are joined, and the marks after them that are not. -/
structure Letter where
  /-- The parts that are joined. -/
  joined : List Char := []
  /-- The marks that are not, the last one first. -/
  loose : List Char := []
  deriving DecidableEq

/-- The letter as it is written. -/
def Letter.write (l : Letter) : List Char :=
  match composed? l.joined with
  | some c => c :: l.loose.reverse
  | none => l.joined ++ l.loose.reverse

/-- The letter with one more part, unless there is no character for that or another mark stands in
between that is not of a lower class. -/
def Letter.join? (l : Letter) (c : Char) : Option Letter :=
  if l.loose.head?.all fun d => markClass d < markClass c then
    (composed? (l.joined ++ [c])).map fun _ => { l with joined := l.joined ++ [c] }
  else none

/-- The composed form of a text in parts and in order, after a letter. -/
def composeFrom (l : Letter) : List Char → List Char
  | [] => l.write
  | c :: cs =>
    match l.join? c with
    | some l => composeFrom l cs
    | none =>
      if markClass c = 0 then l.write ++ composeFrom { joined := [c] } cs
      else composeFrom { l with loose := c :: l.loose } cs

/-- The composed form of a text. -/
def compose (cs : List Char) : List Char := composeFrom {} (decompose cs)

end EventLedger.Text
