import EventLedger.Text.Folding.Table

/-!
# Folding

Names that differ only in the case, width or style of their letters are one name.  Folding writes
each character in its plain form, leaves out those that say nothing, and refuses those that stand in
no name.

## Main definitions

* `Text.fold?` — what becomes of a character.
* `Text.foldAll?` — what becomes of a text.
* `Text.isFolded` — the character is its own plain form.
-/

namespace EventLedger.Text

/-- What a character that stands in `shiftedRanges` becomes. -/
def shifted? (c : Char) : Option Char :=
  (shiftedRanges.find? fun r => r.1 ≤ c.toNat && c.toNat ≤ r.2.1).map fun r =>
    Char.ofNat (r.2.2 + (c.toNat - r.1))

/-- Whether a character is the first one of a pair. -/
def isPaired (c : Char) : Bool :=
  pairedRanges.any fun r => r.1 ≤ c.toNat && c.toNat ≤ r.2 && (c.toNat - r.1) % 2 == 0

/-- What a character becomes; nothing at all if it stands in no name. -/
def fold? (c : Char) : Option (List Char) :=
  if covers disallowedRanges c then none
  else if covers ignoredRanges c then some []
  else if isPaired c then some [Char.ofNat (c.toNat + 1)]
  else
    match shifted? c with
    | some d => some [d]
    | none => some ((spelledRuns.entry? c).getD [c])

/-- What a text becomes, character by character. -/
def foldAll? (cs : List Char) : Option (List Char) := (cs.mapM fold?).map List.flatten

/-- Whether folding leaves a character as it is. -/
def isFolded (c : Char) : Bool := fold? c == some [c]

end EventLedger.Text
