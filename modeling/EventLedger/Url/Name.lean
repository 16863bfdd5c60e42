import EventLedger.Text.Composition
import EventLedger.Text.Direction
import EventLedger.Text.Folding
import EventLedger.Text.Joining
import EventLedger.Url.Punycode

/-!
# Names of hosts

Names of hosts in any script.  A name is taken in its plain form, in which case, width and style of
letters do not count, and is made of labels parted by points.  A label that starts with `xn--`
writes its text in ASCII.

## Main definitions

* `Url.plainName?` — the plain form of a name, if it is one.
* `Url.labelText?` — the text of a label.
* `Url.isLabelText` — what one label has to be like.
* `Url.labelsFit` — what the labels of a name have to be like together.
-/

namespace EventLedger.Url

/-- The characters that stand in no host. -/
def forbidden : List Char :=
  ['\x00', '\t', '\n', '\r', ' ', '#', '/', ':', '<', '>', '?', '@', '[', '\\', ']', '^', '|']

/-- Whether a character of a plain name can stand in it. -/
def isNameChar (c : Char) : Bool :=
  ' ' < c && c != '\x7f' && c != '%' && !forbidden.contains c

/-- What a label starts with that writes its text in ASCII. -/
def codeMark : List Char := "xn--".toList

/-- How long the code of a label can be. -/
def longestCode : Nat := 2000

/-- How long a label can be that is not in ASCII. -/
def longestLabel : Nat := 1000

/-- Whether a character is one of ASCII. -/
def isAscii (c : Char) : Bool := c.toNat < 128

/-- The text behind a code: it is plain already, since a text has one code. -/
def readCode? (code : List Char) : Option (List Char) :=
  let whole := !code.isEmpty && code.getLast? != some '-'
  if whole && code.all isAscii && code.length ≤ longestCode then
    let text := (Punycode.decode? code).map (·.map Char.ofNat)
    text.filter fun cs => cs.all Text.isFolded && Text.compose cs == cs
  else none

/-- The text of a label. -/
def labelText? (label : List Char) : Option (List Char) :=
  if label.take codeMark.length = codeMark then readCode? (label.drop codeMark.length)
  else some label

/-- Whether a text can be that of a label: it does not start with a mark, its joiners fit, and it is
not too long. -/
def isLabelText (text : List Char) : Bool :=
  !text.head?.any Text.isMark && Text.joinersFit text &&
    (text.all isAscii || text.length ≤ longestLabel)

/-- Whether labels fit together: each can be one, and all of them keep their direction if one has
letters to the left. -/
def labelsFit (labels : List (List Char)) : Bool :=
  match labels.mapM labelText? with
  | none => false
  | some texts =>
    texts.all isLabelText &&
      (!texts.any (·.any Text.turnsLeft) || texts.all Text.keepsDirection)

/-- The plain form of a name, if it is one. -/
def plainName? (cs : List Char) : Option (List Char) := do
  let name := Text.compose (← Text.foldAll? cs)
  if name.all isNameChar && labelsFit (name.splitOn '.') then pure name else none

end EventLedger.Url
