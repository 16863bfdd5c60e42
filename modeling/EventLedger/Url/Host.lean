import EventLedger.Url.Encoding
import EventLedger.Url.Name

/-!
# Hosts

The forms in which an address names a host: a name, an address in numbers, or an address of eight
groups of hexadecimal digits.

## Main definitions

* `UrlFault`, `UrlFault.message` — why a text is no address.
* `Url.isQuad`, `Url.isGroups` — addresses in four decimal numbers, and in hexadecimal groups.
* `Url.checkOpaqueHost`, `Url.checkHost` — hosts of schemes that are free, and of those that are
  not.
-/

namespace EventLedger

/-- Why a text is no address. -/
inductive UrlFault
  /-- There is no scheme. -/
  | noScheme
  /-- There is no host where one is needed. -/
  | emptyHost
  /-- The name of the host cannot be written in ASCII. -/
  | hostName
  /-- The number of the service is none of 16 bits. -/
  | service
  /-- The host ends in a number but is no address in numbers. -/
  | quad
  /-- What stands in brackets is no address in groups. -/
  | groups
  /-- A character cannot stand in a host. -/
  | hostCharacter
  deriving DecidableEq, Repr

/-- The wording of a fault. -/
def UrlFault.message : UrlFault → String
  | .noScheme => "relative URL without a base"
  | .emptyHost => "empty host"
  | .hostName => "invalid international domain name"
  | .service => "invalid port number"
  | .quad => "invalid IPv4 address"
  | .groups => "invalid IPv6 address"
  | .hostCharacter => "invalid domain character"

namespace Url

/-! ### Addresses in numbers -/

/-- A decimal number below 256 without needless zeros. -/
def isOctet (cs : List Char) : Bool :=
  !cs.isEmpty && (cs.length == 1 || cs.head? != some '0') && (readBase? 10 cs).any (· < 256)

/-- Four decimal numbers parted by points. -/
def isQuad (cs : List Char) : Bool :=
  let parts := cs.splitOn '.'
  parts.length == 4 && parts.all isOctet

/-- A group of one to four hexadecimal digits. -/
def isGroup (cs : List Char) : Bool :=
  1 ≤ cs.length && cs.length ≤ 4 && cs.all fun c => (hexValue? c).isSome

/-- How many groups a list of them takes up; one at the end may be four decimal numbers, which take
two, if `quad`. -/
def groupsIn (quad : Bool) : List (List Char) → Option Nat
  | [] => some 0
  | [g] => if isGroup g then some 1 else if quad && isQuad g then some 2 else none
  | g :: gs => if isGroup g then (groupsIn quad gs).map (· + 1) else none

/-- How many groups a text parted by colons takes up. -/
def groupCount? (quad : Bool) (cs : List Char) : Option Nat :=
  if cs.isEmpty then some 0 else groupsIn quad (cs.splitOn ':')

/-- The texts before and after the first pair of colons. -/
def splitAtGap? : List Char → Option (List Char × List Char)
  | ':' :: ':' :: cs => some ([], cs)
  | c :: cs => (splitAtGap? cs).map fun r => (c :: r.1, r.2)
  | [] => none

/-- Eight groups parted by colons, of which a pair of colons leaves out one or more. -/
def isGroups (cs : List Char) : Bool :=
  match splitAtGap? cs with
  | some (before, after) =>
    match groupCount? false before, groupCount? true after with
    | some m, some n => m + n ≤ 7
    | _, _ => false
  | none => groupCount? true cs == some 8

/-- Checks a host that starts with a bracket. -/
def checkBrackets (cs : List Char) : Except UrlFault Unit :=
  if cs.getLast? = some ']' ∧ isGroups cs.tail.dropLast then .ok () else .error .groups

/-! ### Names -/

/-- Checks a host of a scheme that leaves hosts as they are. -/
def checkOpaqueHost (cs : List Char) : Except UrlFault Unit :=
  if cs.head? = some '[' then checkBrackets cs
  else if cs.any forbidden.contains then .error .hostCharacter
  else .ok ()

/-- The number that a part of an address in numbers writes: hexadecimal after `0x`, octal after `0`
and decimal otherwise. -/
def readPart? : List Char → Option Nat
  | [] => none
  | '0' :: 'x' :: cs => readBase? 16 cs
  | ['0'] => some 0
  | '0' :: cs => readBase? 8 cs
  | cs => readBase? 10 cs

/-- The parts of a name, without an empty one at its end. -/
def partsOf (name : List Char) : List (List Char) :=
  let parts := name.splitOn '.'
  if parts.getLast? = some [] then parts.dropLast else parts

/-- Whether a name is meant as an address in numbers: its last part is a number. -/
def endsInNumber (name : List Char) : Bool :=
  match (partsOf name).getLast? with
  | some part => (!part.isEmpty && part.all Char.isDigit) || (readPart? part).isSome
  | none => false

/-- An address in at most four numbers; the last one fills the bytes that the others leave. -/
def isNumbers (name : List Char) : Bool :=
  let parts := partsOf name
  match parts.mapM readPart? with
  | some ns =>
    ns.length ≤ 4 && ns.dropLast.all (· < 256) && ns.getLast?.any (· < 1 <<< (8 * (5 - ns.length)))
  | none => false

/-- Checks the host of a scheme whose hosts are those of the network: percent signs are read, and
the name is taken in its plain form. -/
def checkHost (cs : List Char) : Except UrlFault Unit :=
  if cs.head? = some '[' then checkBrackets cs
  else
    match decodeText (String.ofList cs) with
    | .error _ => .error .hostName
    | .ok text =>
      match plainName? text.toList with
      | none => .error .hostName
      | some name =>
        if name.isEmpty then .error .emptyHost
        else if endsInNumber name && !isNumbers name then .error .quad
        else .ok ()

end Url

end EventLedger
