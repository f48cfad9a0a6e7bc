import JsonSchema.Format.DateTime
import JsonSchema.Format.Network
import JsonSchema.Json.Basic
import JsonSchema.Regex.Pattern
import JsonSchema.Url

/-!
# Formats

The formats that a schema may name. All but one are about strings and admit every other value;
`utc-millisec` is about numbers and admits nothing else. Unknown formats admit everything.
-/

namespace JsonSchema.Format

/-- The formats of strings. -/
def ofString : List (String × (List Char → Bool)) :=
  [("date-time", fun s => DateTime.isTimestamp s || DateTime.isUtcTime s),
    ("date", DateTime.isDate), ("time", DateTime.isTime),
    ("regex", fun s => (Regex.parse? s).isSome),
    ("uri", fun s => (Url.parse s).toOption.isSome), ("email", Network.isMailAddress),
    ("ip-address", Network.isIpv4), ("ipv6", Network.isIpv6), ("host-name", Network.isHostName)]

/-- Whether a format admits a value. -/
def admits (format : String) (value : Json) : Bool :=
  if format = "utc-millisec" then
    match value with
    | .num _ => true
    | _ => false
  else
    match value with
    | .str s => ((ofString.lookup format).map fun test => test s.toList).getD true
    | _ => true

end JsonSchema.Format
