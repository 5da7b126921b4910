import ClusterMdns.Settings.Value

/-!
Places in a tree of settings, and setting a value there. What stands on the way and is no table or
list gives way to one. A table set over a table is merged into it key by key. The case of keys does
not count: they stand in the tree in small letters, those in the items of lists excepted, which are
kept as they are.
-/

namespace ClusterMdns

open ClusterMdns.Text

/-- A step further into a tree. -/
inductive PathStep where
  | key (name : String)
  /-- To an item of a list; a negative index counts from the end. -/
  | item (index : Int)
deriving DecidableEq, Repr

/-- A place in a tree: an entry of the root and steps from there. -/
structure SettingPath where
  root : String
  steps : List PathStep
deriving DecidableEq, Repr

namespace SettingPath

/-- Whether a character may stand in a key of a path. -/
def isKeyChar (c : Char) : Bool := c.isAlphanum || c == '_' || c == '-' || c == ' '

/-- Whether a character is passed over beside an index. -/
def isIndexBlank (c : Char) : Bool := c == ' ' || c == '\t'

/-- The index in brackets, with blanks around it and perhaps a minus sign. -/
def index? (text : List Char) : Option Int :=
  match text.dropWhile isIndexBlank with
  | '-' :: rest => (digits? rest).bind fun n => fitting (-n)
  | all => (digits? all).bind fun n => fitting n
where
  digits? (text : List Char) : Option Nat :=
    natural? 10 (text.reverse.dropWhile isIndexBlank).reverse
  fitting (index : Int) : Option Int :=
    if Int64.minValue.toInt ≤ index ∧ index ≤ Int64.maxValue.toInt then some index else none

/-- The steps that a text writes: keys after dots and indices in brackets. The number bounds them.
-/
def steps? : Nat → List Char → Option (List PathStep)
  | _, [] => some []
  | 0, _ => none
  | limit + 1, '.' :: rest =>
    let name := rest.takeWhile isKeyChar
    if name.isEmpty then none
    else (steps? limit (rest.drop name.length)).map (.key (String.ofList name) :: ·)
  | limit + 1, '[' :: rest =>
    let inside := rest.takeWhile (· != ']')
    match rest.drop inside.length, index? inside with
    | ']' :: after, some index => (steps? limit after).map (.item index :: ·)
    | _, _ => none
  | _, _ => none

/-- The place that a text writes, if it writes one. -/
def parse? (text : String) : Option SettingPath :=
  let chars := text.toList
  let name := chars.takeWhile isKeyChar
  if name.isEmpty then none
  else
    let rest := chars.drop name.length
    (steps? rest.length rest).map fun steps => ⟨String.ofList name, steps⟩

/-- The place that a text writes; a text that writes none is a key as it stands. -/
def ofText (text : String) : SettingPath := (parse? text).getD ⟨text, []⟩

end SettingPath

namespace SettingValue

/-- The position of an item in a list of some length. -/
def position (index : Int) (length : Nat) : Nat :=
  if 0 ≤ index then index.toNat else length - index.natAbs

/-- The items of a list with as many empty ones as it takes to have one at an index: behind them, or
in front of them for an index that counts from the end. -/
def extended (items : List SettingValue) (index : Int) : List SettingValue :=
  if 0 ≤ index then items ++ List.replicate (index.toNat + 1 - items.length) nothing
  else List.replicate (index.natAbs - items.length) nothing ++ items

mutual

/-- A value set over what stood in its place: tables are merged, all else is replaced. -/
def merged (old : Option SettingValue) : SettingValue → SettingValue
  | table entries => mergedEntries (old.getD (table [])) entries
  | value => value

/-- A value with entries set in it one after another. -/
def mergedEntries (old : SettingValue) : List (String × SettingValue) → SettingValue
  | [] => old
  | (name, value) :: rest =>
    let entries := old.entries
    let key := lowered name
    mergedEntries (table (placedIn key (merged (entries.lookup key) value) entries)) rest

end

/-- A tree with a value at the end of steps. -/
def setSteps (value : SettingValue) : List PathStep → Option SettingValue → SettingValue
  | [], old => merged old value
  | .key name :: rest, old =>
    let entries := (old.getD nothing).entries
    let key := lowered name
    table (placedIn key (setSteps value rest (entries.lookup key)) entries)
  | .item index :: rest, old =>
    let items := ((old.getD nothing).items?).getD []
    let position := position index items.length
    let items := extended items index
    list (items.set position
      (if rest.isEmpty then value else setSteps value rest items[position]?))

/-- A tree with a value at a place. -/
def setAt (tree : SettingValue) (path : SettingPath) (value : SettingValue) : SettingValue :=
  setSteps value (.key path.root :: path.steps) (some tree)

/-- A tree with the entries of another set in it, each at the place that its key writes. -/
def overlaid (tree : SettingValue) (entries : List (String × SettingValue)) : SettingValue :=
  entries.foldl (fun tree entry => tree.setAt (.ofText entry.1) entry.2) tree

end SettingValue

end ClusterMdns
