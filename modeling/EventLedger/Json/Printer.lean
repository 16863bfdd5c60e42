import EventLedger.Json.Value
import EventLedger.Text.Quoted

/-!
# Compact JSON text

The text of a JSON value without blanks.  In strings only the quote, the backslash and the control
characters below the space are escaped, so a written value never contains a line end.

## Main definitions

* `Json.floatText` — the fewest digits that read back, positional below `10 ^ 16`.
* `Json.quote` — a string literal.
* `Json.render` — the text of a value.
-/

namespace EventLedger.Json

/-- An exponent with its sign. -/
def exponentText (e : Int) : String := "e" ++ (if 0 ≤ e then "+" else "") ++ toString e

/-- The digits of a decimal with a point or an exponent.  Positional notation is used while the
point stands at most five places before the first digit and at most sixteen behind it; it always has
a fraction. -/
def decimalText (d : Decimal) : String :=
  let ds := toString d.digits
  let len : Int := ds.length
  let point := len + d.exponent
  let zeros : Nat → String := fun n => String.ofList (List.replicate n '0')
  if 0 ≤ d.exponent ∧ point ≤ 16 then
    ds ++ zeros d.exponent.toNat ++ ".0"
  else if 0 < point ∧ point ≤ 16 then
    (ds.take point.toNat).toString ++ "." ++ (ds.drop point.toNat).toString
  else if -5 < point ∧ point ≤ 0 then
    "0." ++ zeros (-point).toNat ++ ds
  else if len = 1 then
    ds ++ exponentText (point - 1)
  else
    (ds.take 1).toString ++ "." ++ (ds.drop 1).toString ++ exponentText (point - 1)

/-- The text of a floating-point number: the fewest digits that read back as it. -/
def floatText (x : Binary64) : String :=
  (if x.negative then "-" else "") ++ decimalText x.shortest

/-- One character inside a string literal. -/
def quoteChar (c : Char) : String :=
  match c with
  | '\"' => "\\\""
  | '\\' => "\\\\"
  | '\x08' => "\\b"
  | '\x0c' => "\\f"
  | '\n' => "\\n"
  | '\r' => "\\r"
  | '\t' => "\\t"
  | _ =>
    if c.toNat < 0x10 then "\\u000" ++ Text.hex c.toNat
    else if c.toNat < 0x20 then "\\u00" ++ Text.hex c.toNat
    else c.toString

/-- A string literal. -/
def quote (s : String) : String := "\"" ++ String.join (s.toList.map quoteChar) ++ "\""

mutual

/-- The text of a value. -/
def render : Json → String
  | .null => "null"
  | .bool b => if b then "true" else "false"
  | .int n => toString n
  | .float x => floatText x
  | .str s => quote s
  | .arr [] => "[]"
  | .arr (j :: js) => "[" ++ render j ++ renderItems js ++ "]"
  | .obj [] => "\x7b\x7d"
  | .obj ((n, j) :: fs) => "\x7b" ++ quote n ++ ":" ++ render j ++ renderFields fs ++ "\x7d"

/-- The items after the first of an array. -/
def renderItems : List Json → String
  | [] => ""
  | j :: js => "," ++ render j ++ renderItems js

/-- The fields after the first of an object. -/
def renderFields : List (String × Json) → String
  | [] => ""
  | (n, j) :: fs => "," ++ quote n ++ ":" ++ render j ++ renderFields fs

end

/-- The text of an object whose fields are written in the order given. -/
def renderRecord : List (String × Json) → String
  | [] => "\x7b\x7d"
  | (n, j) :: fs => "\x7b" ++ quote n ++ ":" ++ render j ++ renderFields fs ++ "\x7d"

end EventLedger.Json
