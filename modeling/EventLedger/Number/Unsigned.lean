/-!
# Reading whole numbers

Whole numbers without sign or with `+`, up to a greatest one, and numbers in other bases.

## Main definitions

* `readUnsigned` — the number that a text writes, or what is wrong with the text.
* `readUnsigned?` — the same without a reason.
* `hexValue?`, `readBase?` — the value of a hexadecimal digit, and of digits in a base.
-/

namespace EventLedger

/-- Why a text writes no number. -/
inductive UnsignedFault
  /-- The text is empty. -/
  | empty
  /-- A character is not a digit, or there is nothing but a sign. -/
  | digit
  /-- The number exceeds the greatest one. -/
  | tooLarge
  deriving DecidableEq, Repr

/-- The wording of a fault. -/
def UnsignedFault.message : UnsignedFault → String
  | .empty => "cannot parse integer from empty string"
  | .digit => "invalid digit found in string"
  | .tooLarge => "number too large to fit in target type"

/-- The value of a digit. -/
def digitValue (c : Char) : Nat := c.toNat - '0'.toNat

/-- The number that digits write after those which write `n`; the first character that does not fit
is reported. -/
def readDigitsFrom (greatest : Nat) : Nat → List Char → Except UnsignedFault Nat
  | n, [] => .ok n
  | n, c :: cs =>
    if !c.isDigit then .error .digit
    else if greatest < n * 10 + digitValue c then .error .tooLarge
    else readDigitsFrom greatest (n * 10 + digitValue c) cs

/-- The number that a text writes without sign or with `+`. -/
def readUnsigned (greatest : Nat) (s : String) : Except UnsignedFault Nat :=
  match s.toList with
  | [] => .error .empty
  | ['+'] => .error .digit
  | '+' :: cs => readDigitsFrom greatest 0 cs
  | cs => readDigitsFrom greatest 0 cs

/-- The number that a text writes without sign or with `+`, if it writes one. -/
def readUnsigned? (greatest : Nat) (s : String) : Option Nat := (readUnsigned greatest s).toOption

/-- The value of a hexadecimal digit. -/
def hexValue? (c : Char) : Option Nat :=
  if '0' ≤ c ∧ c ≤ '9' then some (c.toNat - '0'.toNat)
  else if 'a' ≤ c ∧ c ≤ 'f' then some (c.toNat - 'a'.toNat + 10)
  else if 'A' ≤ c ∧ c ≤ 'F' then some (c.toNat - 'A'.toNat + 10)
  else none

/-- The number that digits of a base write. -/
def readBase? (base : Nat) (cs : List Char) : Option Nat :=
  cs.foldlM (fun n c => ((hexValue? c).filter (· < base)).map (n * base + ·)) 0

/-- The greatest number of 16 bits. -/
def greatestWord16 : Nat := 65535

/-- The greatest number of 32 bits. -/
def greatestWord32 : Nat := 4294967295

/-- The greatest number of 64 bits. -/
def greatestWord64 : Nat := 18446744073709551615

end EventLedger
