import EventLedger.Tables.Failure
import EventLedger.Text.Quoted
import EventLedger.Url

/-!
# Addresses of databases

What has to be true of an address before a connection to a database is attempted: its parts are
texts, and those settings in its query that are not texts can be read.

## Main definitions

* `checkSetting` — whether a setting can be read.
* `checkAddress` — whether an address can be used.
-/

namespace EventLedger

/-- The names of the ways in which connections are secured. -/
def securityModes : List String :=
  ["disable", "allow", "prefer", "require", "verify-ca", "verify-full"]

/-- Checks the name of a way to secure connections, in either case. -/
def checkSecurityMode (value : String) : Except DatabaseFailure Unit :=
  if securityModes.contains (value.map Char.toLower) then .ok ()
  else
    let own := DatabaseFailure.configuration s!"unknown value {Text.quoted value} for `ssl_mode`"
    -- the fault is one of the settings by itself, and of the address as a whole
    .error (.configuration own.message)

/-- Checks a number among the settings. -/
def checkNumber (greatest : Nat) (value : String) : Except DatabaseFailure Unit :=
  match readUnsigned greatest value with
  | .ok _ => .ok ()
  | .error f => .error (.configuration f.message)

/-- Checks a host that has to be given in numbers. -/
def checkNumericHost (value : String) : Except DatabaseFailure Unit :=
  if Url.isQuad value.toList || Url.isGroups value.toList then .ok ()
  else .error (.configuration "invalid IP address syntax")

/-- Checks a setting of the query; settings that are not known are ignored. -/
def checkSetting (name value : String) : Except DatabaseFailure Unit :=
  match name with
  | "sslmode" => checkSecurityMode value
  | "ssl-mode" => checkSecurityMode value
  | "statement-cache-capacity" => checkNumber greatestWord64 value
  | "port" => checkNumber greatestWord16 value
  | "hostaddr" => checkNumericHost value
  | _ => .ok ()

/-- Checks that a part of an address is a text behind its percent signs. -/
def checkText (part : String) : Except DatabaseFailure Unit :=
  match Url.decodeText part with
  | .ok _ => .ok ()
  | .error f => .error (.configuration f.message)

/-- Checks the address of a database; of several faults the first from the left is reported. -/
def checkAddress (text : String) : Except DatabaseFailure Unit := do
  let url ← (Url.parse text).mapError fun f => .configuration f.message
  -- a host is a text of any kind, but the path of a socket is read
  if (Url.decodeBytes url.host).head? = some 0x2F then checkText url.host
  checkText url.user
  checkText (url.password.getD "")
  checkText (url.path.dropWhile (· == '/')).toString
  for (name, value) in Url.queryPairs url.query do
    checkSetting name value

end EventLedger
