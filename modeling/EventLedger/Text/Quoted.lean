import EventLedger.Text.Printable

/-!
# Quoted text

The quoted form in which messages show a text that came from outside: in double quotes, with the
usual escapes and every character that cannot be seen written by its number in hexadecimal.

## Main definitions

* `Text.hex` — a number in lower-case hexadecimal digits, without padding.
* `Text.quoted` — the quoted form.
-/

namespace EventLedger.Text

/-- A number in lower-case hexadecimal digits, without padding. -/
def hex (n : Nat) : String := String.ofList (Nat.toDigits 16 n)

/-- One character inside quotes. -/
def quotedChar (c : Char) : String :=
  match c with
  | '\x00' => "\\0"
  | '\t' => "\\t"
  | '\r' => "\\r"
  | '\n' => "\\n"
  | '\"' => "\\\""
  | '\\' => "\\\\"
  | _ => if isPrintable c then c.toString else "\\u\x7b" ++ hex c.toNat ++ "\x7d"

/-- The text in double quotes. -/
def quoted (s : String) : String :=
  "\"" ++ String.join (s.toList.map quotedChar) ++ "\""

end EventLedger.Text
