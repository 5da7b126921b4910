import ClusterMdns.Json.Reader
import ClusterMdns.Settings.Format

/-!
Settings written as JSON. A group of settings is an object, in which a known setting stands at most
once, or an array with the settings in their order. Every value is of the kind that its setting asks
for; only optional values may be `null`. What is not asked for may even be garbled.
-/

namespace ClusterMdns.SettingsJson

/-- The values of a group of settings. -/
def group? (names : List String) : Json → Option (List (Option Json))
  | .object members =>
    names.mapM fun name =>
      match members.filter (·.1 == name) with
      | [] => some none
      | [member] => some (some member.2)
      | _ => none
  | .array items =>
    if items.length ≤ names.length then
      some (items.map some ++ List.replicate (names.length - items.length) none)
    else none
  | _ => none

def isNull : Json → Bool
  | .null => true
  | _ => false

def flag? : Json → Option Bool
  | .bool value => some value
  | _ => none

def natural? : Json → Option Nat
  | .integer value => if 0 ≤ value then some value.toNat else none
  | _ => none

def items? : Json → Option (List Json)
  | .array items => some items
  | _ => none

/-- The name of a source: a string, or an object with the name as the key of a `null`. -/
def sourceName? : Json → Option String
  | .string name => some name
  | .object [(name, .null)] => some name
  | _ => none

/-- How JSON values are read as settings. -/
def format : SettingFormat Json where
  group? := group?
  isNothing := isNull
  text? := Json.string?
  flag? := flag?
  natural? := natural?
  items? := items?
  sourceName? := sourceName?

/-- The settings that a text writes. -/
def read? (text : String) : Option Settings := (Json.readGarbled? text).bind format.settings?

end ClusterMdns.SettingsJson
