import ClusterMdns.Number.Reader
import ClusterMdns.Number.Shortest
import ClusterMdns.Settings.Format
import ClusterMdns.Text.Lowercase

/-!
Values of settings before it is known what a setting asks for: texts, truth values, numbers, lists
and tables. Each is turned into what a setting asks for as far as that makes sense: a text that says
`yes` is a truth value, and a number asked for as a text is its written form.
-/

namespace ClusterMdns

inductive SettingValue where
  | nothing
  | flag (value : Bool)
  | integer (value : Int)
  | float (value : Binary64)
  | text (value : String)
  | list (items : List SettingValue)
  | table (entries : List (String × SettingValue))
deriving Inhabited

namespace SettingValue

open ClusterMdns.Text

def entries : SettingValue → List (String × SettingValue)
  | table entries => entries
  | _ => []

/-- Entries with a value for a key, in place of the one it had. -/
def placedIn (key : String) (value : SettingValue) :
    List (String × SettingValue) → List (String × SettingValue)
  | [] => [(key, value)]
  | entry :: rest =>
    if entry.1 = key then (key, value) :: rest else entry :: placedIn key value rest

def lowered (text : String) : String := String.ofList (lowercase text.toList)

def integerText (value : Int) : String :=
  String.ofList (Binary64.signChars (value < 0) ++ decimal value.natAbs)

def text? : SettingValue → Option String
  | text value => some value
  | flag value => some (if value then "true" else "false")
  | integer value => some (integerText value)
  | float value => some value.toText
  | _ => none

/-- The truth value that a word in small letters stands for. -/
def wordFlag? (word : String) : Option Bool :=
  if ["true", "on", "yes"].contains word then some true
  else if ["false", "off", "no"].contains word then some false
  else none

/-- The truth value that a value gives: numbers other than zero are true. -/
def flag? : SettingValue → Option Bool
  | flag value => some value
  | integer value => some (value != 0)
  | float value => some !value.isZero
  | text value =>
    let word := lowered value
    if word = "1" then some true else if word = "0" then some false else wordFlag? word
  | _ => none

def naturalLimit : Nat := UInt64.size

def textNatural? (text : String) : Option Nat :=
  let digits := match text.toList with
    | '+' :: rest => rest
    | all => all
  (natural? 10 digits).filter (· < naturalLimit)

/-- The natural number that a value gives: truth values count as zero and one. -/
def natural? : SettingValue → Option Nat
  | flag value => some value.toNat
  | integer value => if 0 ≤ value then some value.toNat else none
  | float value => some (value.roundedNatural naturalLimit)
  | text value =>
    match wordFlag? (lowered value) with
    | some known => some known.toNat
    | none => textNatural? value
  | _ => none

def isNothing : SettingValue → Bool
  | nothing => true
  | _ => false

def items? : SettingValue → Option (List SettingValue)
  | list items => some items
  | _ => none

/-- The name of a source: a text, or a table with the name as its only key. Case does not count. -/
def sourceName? : SettingValue → Option String
  | text name => some (lowered name)
  | table [(name, _)] => some (lowered name)
  | _ => none

/-- The values of a group of settings: a table by their names, a list by their order. -/
def group? (names : List String) : SettingValue → Option (List (Option SettingValue))
  | table entries => some (names.map fun name => entries.lookup name)
  | list items =>
    some ((items.take names.length).map some
      ++ List.replicate (names.length - items.length) none)
  | _ => none

/-- How the values are read as settings. -/
def format : SettingFormat SettingValue where
  group? := group?
  isNothing := isNothing
  text? := text?
  flag? := flag?
  natural? := natural?
  items? := items?
  sourceName? := sourceName?

def settings? (value : SettingValue) : Option Settings := format.settings? value

end SettingValue

end ClusterMdns
