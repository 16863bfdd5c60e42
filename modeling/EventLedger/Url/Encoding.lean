import EventLedger.Number.Unsigned
import EventLedger.Text.Utf8

/-!
# Percent signs

Bytes written as a percent sign and two hexadecimal digits, and the pairs of names and values of a
query.

## Main definitions

* `Url.percentDecode`, `Url.decodeText` — the bytes and the text behind percent signs.
* `Url.queryPairs` — the names and values of a query.
-/

namespace EventLedger.Url

/-- The value of a byte that is a hexadecimal digit. -/
def hexByte? (b : UInt8) : Option Nat := hexValue? (Char.ofNat b.toNat)

/-- The bytes with each percent sign and two hexadecimal digits read as one byte; other percent
signs stand for themselves. -/
def percentDecode : List UInt8 → List UInt8
  | b :: x :: y :: rest =>
    match b == 0x25, hexByte? x, hexByte? y with
    | true, some high, some low => UInt8.ofNat (16 * high + low) :: percentDecode rest
    | _, _, _ => b :: percentDecode (x :: y :: rest)
  | bs => bs

/-- The bytes behind the percent signs of a text. -/
def decodeBytes (s : String) : List UInt8 := percentDecode (Text.bytes s)

/-- The text behind the percent signs of a text. -/
def decodeText (s : String) : Except Text.Utf8Fault String := Text.readUtf8 (decodeBytes s)

/-- A name or a value of a query: a plus sign is a space, and faults in the bytes are marked. -/
def decodeQueryText (cs : List Char) : String :=
  Text.readLossy (decodeBytes (String.ofList (cs.map fun c => if c = '+' then ' ' else c)))

/-- The names and values of a query.  Pairs are parted by `&`, and a name from its value by the
first `=`. -/
def queryPairs (query : String) : List (String × String) :=
  ((query.toList.splitOn '&').filter fun p => !p.isEmpty).map fun p =>
    (decodeQueryText (p.takeWhile (· != '=')), decodeQueryText ((p.dropWhile (· != '=')).drop 1))

end EventLedger.Url
