import EventLedger.Number.Unsigned

/-!
# Tables of characters

Sets of characters as ranges of their numbers, and lists of texts for characters, written down in
runs of characters that follow each other.

## Main definitions

* `Text.covers` — whether ranges hold a character.
* `Text.Runs`, `Text.Runs.entry?`, `Text.Runs.entries` — texts for characters.
-/

namespace EventLedger.Text

/-- Whether ranges, each with its first and its last number, hold a character. -/
def covers (ranges : List (Nat × Nat)) (c : Char) : Bool :=
  ranges.any fun r => r.1 ≤ c.toNat && c.toNat ≤ r.2

/-- Texts for characters: runs in ascending order, each with the number of its first character and a
word for each of its characters.  Words are parted by spaces; a word holds the numbers of the
characters of a text, in hexadecimal and parted by plus signs. -/
abbrev Runs := List (Nat × String)

/-- The text of a word. -/
def readWord (word : List Char) : List Char :=
  (word.splitOn '+').map fun digits => Char.ofNat ((readBase? 16 digits).getD 0)

/-- The texts that the words of a run write. -/
def readWords (words : String) : List (List Char) := (words.toList.splitOn ' ').map readWord

/-- The text for a character. -/
def Runs.entry? (runs : Runs) (c : Char) : Option (List Char) := do
  let (start, words) ← (runs.takeWhile fun r => r.1 ≤ c.toNat).getLast?
  (readWords words)[c.toNat - start]?

/-- The characters for which there are texts, and these. -/
def Runs.entries (runs : Runs) : List (Char × List Char) :=
  runs.flatMap fun r => (readWords r.2).mapIdx fun i text => (Char.ofNat (r.1 + i), text)

end EventLedger.Text
