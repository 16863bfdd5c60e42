import EventLedger.Text.Table

/-!
# Blank text

The characters of the Unicode property White_Space, and the texts that hold nothing else.

## Main definitions

* `Text.isBlankChar` — the property, as its table of code points.
* `Text.isBlank` — the text is empty or holds blank characters only.
-/

namespace EventLedger.Text

/-- The ranges of code points that have the property White_Space. -/
def blankRanges : List (Nat × Nat) :=
  [(0x09, 0x0D), (0x20, 0x20), (0x85, 0x85), (0xA0, 0xA0), (0x1680, 0x1680), (0x2000, 0x200A),
    (0x2028, 0x2029), (0x202F, 0x202F), (0x205F, 0x205F), (0x3000, 0x3000)]

/-- Whether the character has the property White_Space. -/
def isBlankChar (c : Char) : Bool := covers blankRanges c

/-- Whether the text is empty or blank throughout. -/
def isBlank (s : String) : Bool := s.toList.all isBlankChar

end EventLedger.Text
