import ClusterMdns.Settings.Path
import ClusterMdns.TextMap

/-!
Settings from environment variables. After the program's mark a variable names the place of a
setting, two underscores standing between its parts; case does not count. What a text looks like
decides what it is: a truth value, an integer, any other number or a text, which for the sources is
a list with commas between its items.
-/

namespace ClusterMdns.Environment

open ClusterMdns.Text

/-- The mark at the start of the variables that count. -/
def mark : List Char := "external_mdns__".toList

/-- A text with a dot in place of every two underscores. -/
def dotted : List Char → List Char
  | '_' :: '_' :: rest => '.' :: dotted rest
  | c :: rest => c :: dotted rest
  | [] => []

/-- The place that a variable names, as it is written; none if the variable does not count. -/
def place? (name : String) : Option String :=
  let lowered := lowercase name.toList
  if mark.isPrefixOf lowered then some (String.ofList (dotted (lowered.drop mark.length)))
  else none

/-- The place of the list that is written with commas. -/
def listPlace : String := "sync.sources"

/-- The value of a variable for a place. -/
def value (place text : String) : SettingValue :=
  let chars := text.toList
  let word := SettingValue.lowered text
  if word = "true" then .flag true
  else if word = "false" then .flag false
  else
    match Number.integer64? chars with
    | some n => .integer n
    | none =>
      match Number.binary64? chars with
      | some x => .float x
      | none =>
        if place = listPlace then
          .list ((chars.splitOn ',').map fun piece => .text (String.ofList piece))
        else .text text

/-- The settings that variables give, by the places that they name. Of variables that name one place
the last counts. -/
def settings (environment : List (String × String)) : List (String × SettingValue) :=
  (TextMap.ofList (environment.filterMap fun (name, text) =>
    (place? name).map fun place => (place, value place text))).entries

end ClusterMdns.Environment
